import Mathlib.GroupTheory.Perm.ViaEmbedding
import Throttle.Proofs.Policy.Akin
import Throttle.Proofs.Policy.Building

/-!
# Origins do not show

The origins that a policy set draws for its shared limiters only show in the names of members, and
scripts do not look at these. An exchange of origins renames all members of the limiters that have
them; it is one to one, so that names which come again do so in both runs. A set with other origins
therefore answers every run over a store in memory alike, as long as the store holds no names that
its limiters would draw.

## Main definitions

* `MemberNames.unitName`: the name of a unit, from which its request and its number can be read
* `MemberNames.exchange`: the names of units after an exchange of origins
* `SortedSet.Renamed`: sorted sets that differ by an exchange of origins
* `Store.Foreign`: a store without names of some origins
* `PolicySet.Exchanged`: policy sets over stores that differ by exchanges of origins

## Main results

* `SortedSet.Renamed.keeps`: requests keep sorted sets renamed
* `PolicySet.Exchanged.answer`: an action with either origins
* `PolicySet.replies_eq_of_origins`: a run with either origins
-/

namespace Throttle

namespace MemberNames

/-- The name of a unit of a request, made at a time in microseconds, of an origin and a number: one
of its units has the name of the request, and the others are numbered. -/
def unitName : ℤ × UInt64 × UInt64 × Option ℕ → String
  | (micros, origin, sequence, none) => name micros origin sequence
  | (micros, origin, sequence, some i) => name micros origin sequence ++ ":" ++ toString (i + 1)

theorem mem_unitNames_iff {unit : String} {micros : ℤ} {origin sequence : UInt64} {n : ℕ} :
    unit ∈ Store.unitNames (name micros origin sequence) n ↔
      ∃ number : Option ℕ, (∀ i ∈ number, i < n - 1) ∧
        unit = unitName (micros, origin, sequence, number) := by
  rw [Store.mem_unitNames]
  constructor
  · rintro (rfl | ⟨i, less, rfl⟩)
    · exact ⟨none, nofun, rfl⟩
    · exact ⟨some i, fun j same => Option.some.inj same ▸ less, rfl⟩
  · rintro ⟨_ | i, less, rfl⟩
    · exact .inl rfl
    · exact .inr ⟨i, less i rfl, rfl⟩

theorem unitName_mem (micros : ℤ) (origin sequence : UInt64) (number : Option ℕ) :
    ∃ n, unitName (micros, origin, sequence, number) ∈
      Store.unitNames (name micros origin sequence) n := by
  cases number with
  | none => exact ⟨0, mem_unitNames_iff.2 ⟨none, nofun, rfl⟩⟩
  | some i =>
    exact ⟨i + 2, mem_unitNames_iff.2 ⟨some i, fun j same => Option.some.inj same ▸ by omega, rfl⟩⟩

/-- **A unit can be read back from its name.** -/
theorem unitName_injective : Function.Injective unitName := by
  rintro ⟨micros, origin, sequence, number⟩ ⟨micros', origin', sequence', number'⟩ same
  obtain ⟨n, own⟩ := unitName_mem micros origin sequence number
  obtain ⟨n', own'⟩ := unitName_mem micros' origin' sequence' number'
  rw [← same] at own'
  obtain ⟨rfl, rfl, rfl⟩ := Store.eq_of_mem_unitNames own own'
  simp only [Prod.mk.injEq, true_and]
  cases number with
  | none =>
    cases number' with
    | none => rfl
    | some j => exact (name_ne_numbered _ _ _ _ _ _ _ same).elim
  | some i =>
    cases number' with
    | none => exact (name_ne_numbered _ _ _ _ _ _ _ same.symm).elim
    | some j =>
      rw [unitName, unitName, String.append_right_inj, Nat.toString_eq_repr,
        Nat.toString_eq_repr] at same
      rw [Nat.succ.inj (Nat.repr_injective same)]

/-- The names of units after an exchange of origins. All other names stay. -/
noncomputable def exchange (e : Equiv.Perm UInt64) : Equiv.Perm String :=
  Equiv.Perm.viaEmbedding (Equiv.prodCongr (Equiv.refl ℤ) (Equiv.prodCongr e (Equiv.refl _)))
    ⟨unitName, unitName_injective⟩

@[simp] theorem exchange_unitName (e : Equiv.Perm UInt64) (micros : ℤ) (origin sequence : UInt64)
    (number : Option ℕ) :
    exchange e (unitName (micros, origin, sequence, number)) =
      unitName (micros, e origin, sequence, number) :=
  Equiv.Perm.viaEmbedding_apply _ ⟨unitName, unitName_injective⟩ (micros, origin, sequence, number)

theorem exchange_of_notMem (e : Equiv.Perm UInt64) {unit : String}
    (other : unit ∉ Set.range unitName) : exchange e unit = unit :=
  Equiv.Perm.viaEmbedding_apply_of_notMem _ ⟨unitName, unitName_injective⟩ unit other

/-- The units of a request are those of the request of the other origin. -/
theorem exchange_mem_unitNames_iff (e : Equiv.Perm UInt64) {unit : String} {micros : ℤ}
    {origin sequence : UInt64} {n : ℕ} :
    exchange e unit ∈ Store.unitNames (name micros (e origin) sequence) n ↔
      unit ∈ Store.unitNames (name micros origin sequence) n := by
  simp only [mem_unitNames_iff, ← exchange_unitName, EmbeddingLike.apply_eq_iff_eq]

/-- The names of a limiter of the other origin. -/
def exchanged (e : Equiv.Perm UInt64) (m : MemberNames) : MemberNames := ⟨e m.origin, m.sequence⟩

theorem exchanged_after (e : Equiv.Perm UInt64) (m : MemberNames) (now : Instant) (drew : Bool) :
    (m.after now drew).exchanged e = (m.exchanged e).after now drew := by
  cases drew <;> rfl

end MemberNames

open MemberNames (exchange)

/-! ## Sorted sets -/

namespace SortedSet

/-- Two sorted sets that differ by an exchange of origins. -/
structure Renamed (e : Equiv.Perm UInt64) (s s' : SortedSet) : Prop where
  coherent : s.Coherent
  coherent' : s'.Coherent
  scores : ∀ unit, s'.score? (exchange e unit) = s.score? unit

namespace Renamed

variable {e : Equiv.Perm UInt64} {s s' : SortedSet}

/-- Every score is that of as many members. -/
theorem scoring_eq (h : Renamed e s s') (p : ℤ → Bool) : s.scoring p = s'.scoring p := by
  have renamed : (s.ranked.toList.map (Prod.map id (exchange e))).Perm s'.ranked.toList := by
    have injective : Function.Injective (Prod.map id (exchange e) : ℤ × String → ℤ × String) :=
      Function.injective_id.prodMap (exchange e).injective
    refine (List.perm_ext_iff_of_nodup ((nodup_ranked s).map injective) (nodup_ranked s')).2 ?_
    rintro ⟨score, unit⟩
    obtain ⟨unit, rfl⟩ := (exchange e).surjective unit
    change Prod.map id (exchange e) (score, unit) ∈ _ ↔ _
    rw [List.mem_map_of_injective injective, h.coherent.mem_toList, h.coherent'.mem_toList,
      h.scores]
  rw [scoring, scoring, ← renamed.countP_eq, List.countP_map]
  rfl

theorem indistinct (e : Equiv.Perm UInt64) : Indistinct (Renamed e) where
  empty := ⟨coherent_empty, coherent_empty, fun _ => rfl⟩
  scoring h := h.scoring_eq
  removeBelow h bound :=
    ⟨h.coherent.removeBelow bound, h.coherent'.removeBelow bound, fun unit => by
      rw [h.coherent'.score?_removeBelow, h.scores, h.coherent.score?_removeBelow]⟩

/-- **Requests keep sorted sets renamed**, whether or not their names are new. -/
theorem keeps (e : Equiv.Perm UInt64) (m : MemberNames) (micros : ℤ) :
    Keeps (fun _ => Renamed e) (m.next micros).2 ((m.exchanged e).next micros).2 where
  indistinct _ := indistinct e
  mono h := h
  addAll h score n :=
    ⟨h.coherent.addAll _ _, h.coherent'.addAll _ _, fun unit => by
      rw [score?_addAll, score?_addAll, h.scores]
      exact if_congr (MemberNames.exchange_mem_unitNames_iff e) rfl rfl⟩

end Renamed

end SortedSet

/-! ## Stores -/

/-- No member in a store has a name that a limiter of one of some origins would draw. -/
def Store.Foreign (origins : Set UInt64) (store : Store) : Prop :=
  ∀ key set expiresAt, store.slots.get? key = some ⟨.sortedSet set, expiresAt⟩ →
    set.Coherent ∧ ∀ micros sequence number, ∀ origin ∈ origins,
      set.score? (MemberNames.unitName (micros, origin, sequence, number)) = none

theorem Store.foreign_empty (origins : Set UInt64) : Foreign origins ∅ :=
  fun _ _ _ held => by cases held

/-- An exchange of origins does not show in a store without names of either. -/
theorem Store.Foreign.agree {origins : Set UInt64} {store : Store} (h : store.Foreign origins)
    {origin origin' : UInt64} (first : origin ∈ origins) (second : origin' ∈ origins)
    (now : Instant) (key : String) :
    store.Agree (SortedSet.Renamed (Equiv.swap origin origin')) now key store where
  available := rfl
  slots := by
    rw [SlotsAgree]
    cases live : (store.live now).get? key with
    | none => exact .none
    | some slot =>
      rw [get?_live, Option.filter_eq_some_iff] at live
      obtain ⟨fields | set, expiresAt⟩ := slot
      · exact .some (.hash ..)
      · obtain ⟨coherent, foreign⟩ := h key set expiresAt live.1
        refine .some (.sortedSet ⟨coherent, coherent, fun unit => ?_⟩ _)
        by_cases named : unit ∈ Set.range MemberNames.unitName
        · obtain ⟨⟨micros, own, sequence, number⟩, rfl⟩ := named
          rw [MemberNames.exchange_unitName]
          by_cases one : own = origin
          · rw [one, Equiv.swap_apply_left, foreign _ _ _ _ second, foreign _ _ _ _ first]
          · by_cases other : own = origin'
            · rw [other, Equiv.swap_apply_right, foreign _ _ _ _ first, foreign _ _ _ _ second]
            · rw [Equiv.swap_apply_of_ne_of_ne one other]
        · rw [MemberNames.exchange_of_notMem _ named]

/-! ## Policy sets -/

variable {α : Type} [Arithmetic α]

/-- A request by resource changes nothing that the store shows of other keys. -/
theorem Limiter.sameBut_check {l : Limiter α} {store : Store} {now : Instant} {r : Resource}
    {count : ℕ} {x : (Limiter α × Store) × Except LimiterError Bool}
    (checked : l.check (Store.context α now) store r count = .ok x) :
    store.SameBut r.name now x.1.2 := by
  obtain ⟨-, _, effect⟩ := check_others checked
  cases effect with
  | none untouched =>
    rw [show x.1.2 = store from untouched]
    exact .refl ..
  | script _ _ _ _ after => exact after.others

/-- Policies of one configuration whose limiters agree but for an exchange of origins. -/
structure Policy.Exchanged (e : Equiv.Perm UInt64) (name : String) (p p' : Policy α) : Prop where
  config : p.config = p'.config
  limiter : p.limiter.AgreeOn {name} p'.limiter
  members : p'.limiter.members? = p.limiter.members?.map (MemberNames.exchanged e)

/-- A request to limiters with either origin, over stores that differ by exchanges of origins. -/
theorem Policy.Exchanged.check {e : String → Equiv.Perm UInt64} {now : Instant} {name : String}
    {p p' : Policy α} (h : p.Exchanged (e name) name p') (named : p.config.resource.name = name)
    {store store' : Store}
    (stores : ∀ other, store.Agree (SortedSet.Renamed (e other)) now other store') (count : ℕ) :
    Related (fun x y => x.2 = y.2 ∧
        Policy.Exchanged (e name) name { p with limiter := x.1.1 } { p' with limiter := y.1.1 } ∧
        ∀ other, x.1.2.Agree (SortedSet.Renamed (e other)) now other y.1.2)
      (p.limiter.check (Store.context α now) store p.config.resource count)
      (p'.limiter.check (Store.context α now) store' p'.config.resource count) := by
  have ready : Limiter.Ready (fun _ => SortedSet.Renamed (e name)) now p.config.resource.name
      (p.limiter, store) (p'.limiter, store') := by
    refine ⟨fun m held m' held' => ?_, fun _ => named ▸ stores name⟩
    dsimp only at held held'
    rw [h.members, held, Option.map_some, Option.some.injEq] at held'
    exact held' ▸ SortedSet.Renamed.keeps ..
  rw [← h.config]
  have related := Limiter.check_related h.limiter named ready count
  cases left : p.limiter.check (Store.context α now) store p.config.resource count with
  | error fault =>
    rw [left] at related
    generalize p'.limiter.check _ store' p.config.resource count = y at related
    cases related
    exact .error fault
  | ok x =>
    obtain ⟨y, right, same, limiters, -, effect⟩ := related.exists_of_eq_ok left
    rw [right]
    have others := Limiter.sameBut_check left
    have others' := Limiter.sameBut_check right
    rw [named] at others others'
    refine .ok ⟨same, ⟨rfl, limiters, ?_⟩, fun other => ?_⟩
    · cases effect with
      | none _ _ members members' => rw [members, members', h.members]
      | script drew _ members members' =>
        -- Both draw a name, or neither does.
        simp only [members, members', h.members, Option.map_map, Function.comp_def,
          MemberNames.exchanged_after]
    · by_cases own : other = name
      · subst own
        cases effect with
        | none untouched untouched' =>
          rw [show x.1.2 = store from untouched, show y.1.2 = store' from untouched']
          exact stores other
        | script _ _ _ _ after => exact named ▸ after.agree
      · exact ((stores other).of_sameBut others own (Int.le_refl _)).of_sameBut_right others'
          own (Int.le_refl _)

namespace PolicySet

/-- Two policy sets over stores at an instant: the origins of each policy are exchanged, and so they
are in the names of members under its key. -/
structure Exchanged (e : String → Equiv.Perm UInt64) (now : Instant) (s s' : PolicySet α × Store) :
    Prop where
  coherent : s.1.Coherent
  policies : ∀ name, Option.Rel (Policy.Exchanged (e name) name) (s.1.policies.get? name)
    (s'.1.policies.get? name)
  stores : ∀ name, s.2.Agree (SortedSet.Renamed (e name)) now name s'.2

namespace Exchanged

variable {e : String → Equiv.Perm UInt64} {now : Instant} {set set' : PolicySet α}
  {store store' : Store} {s s' : PolicySet α × Store}

theorem later (h : Exchanged e now s s') {later : Instant} (order : now ≤ later) :
    Exchanged e later s s' :=
  { h with stores := fun name => (h.stores name).later order }

theorem insert (policies : ∀ name, Option.Rel (Policy.Exchanged (e name) name)
      (set.policies.get? name) (set'.policies.get? name)) {key : String} {p p' : Policy α}
    (exchanged : p.Exchanged (e key) key p') (name : String) :
    Option.Rel (Policy.Exchanged (e name) name) ((set.policies.insert key p).get? name)
      ((set'.policies.insert key p').get? name) := by
  rw [Table.get?_insert, Table.get?_insert]
  split
  · rename_i same
    exact same ▸ .some exchanged
  · exact policies name

/-- A check of a policy with either origin. -/
theorem check (h : Exchanged e now (set, store) (set', store')) (name : String) (count : ℕ) :
    Related (fun x y => x.2 = y.2 ∧
        (∀ other, Option.Rel (Policy.Exchanged (e other) other) (x.1.1.policies.get? other)
          (y.1.1.policies.get? other)) ∧
        ∀ other, x.1.2.Agree (SortedSet.Renamed (e other)) now other y.1.2)
      (PolicySet.check (Store.context α now) (set, store) name count)
      (PolicySet.check (Store.context α now) (set', store') name count) := by
  have exchanged := h.policies name
  rw [PolicySet.check, PolicySet.check]
  dsimp only at exchanged ⊢
  generalize found : set.policies.get? name = held, set'.policies.get? name = held' at exchanged
  cases exchanged with
  | none => exact .ok ⟨rfl, h.policies, h.stores⟩
  | @some p p' exchanged =>
    have checked := exchanged.check (h.coherent name p found).named h.stores count
    exact checked.map fun x y both =>
      ⟨congrArg Entry.ofOutcome both.1, insert h.policies both.2.1, both.2.2⟩

/-- A reload of a policy with either origin. -/
theorem reconfigure (h : Exchanged e now (set, store) (set', store')) (update : PolicyConfig) :
    (set.reconfigure now update).2 = (set'.reconfigure now update).2 ∧
      ∀ other, Option.Rel (Policy.Exchanged (e other) other)
        ((set.reconfigure now update).1.policies.get? other)
        ((set'.reconfigure now update).1.policies.get? other) := by
  have passes := updatable?_related (fun _ _ exchanged => exchanged.config)
    (h.policies update.name)
  dsimp only at passes
  cases passed : set.updatable? update with
  | error error =>
    rw [passed] at passes
    generalize passed' : set'.updatable? update = y at passes
    cases passes
    rw [reconfigure_of_refused passed, reconfigure_of_refused passed']
    exact ⟨rfl, h.policies⟩
  | ok p =>
    obtain ⟨p', passed', exchanged⟩ := passes.exists_of_eq_ok passed
    obtain ⟨same, changed⟩ :=
      applyResource_related exchanged.limiter rfl now (r := update.resource)
    rw [reconfigure_of_passed passed, reconfigure_of_passed passed']
    refine ⟨same, insert h.policies ?_⟩
    rw [← same, ← exchanged.config]
    exact ⟨rfl, changed.agree, by rw [changed.members, changed.members', exchanged.members]⟩

/-- **An action is answered alike with either origins.** -/
theorem answer (h : Exchanged e now s s') (action : Action) :
    Related (fun x y => x.2 = y.2 ∧ Exchanged e now x.1 y.1)
      (PolicySet.answer s (Store.context α now, action))
      (PolicySet.answer s' (Store.context α now, action)) := by
  suffices related : Related (fun x y => x.2 = y.2 ∧
      (∀ other, Option.Rel (Policy.Exchanged (e other) other) (x.1.1.policies.get? other)
        (y.1.1.policies.get? other)) ∧
      ∀ other, x.1.2.Agree (SortedSet.Renamed (e other)) now other y.1.2)
      (PolicySet.answer s (Store.context α now, action))
      (PolicySet.answer s' (Store.context α now, action)) from
    (related.and_left fun _ => answer_keeps h.coherent).mono
      fun _ _ ⟨⟨same, policies, stores⟩, coherent, _⟩ => ⟨same, coherent, policies, stores⟩
  cases action with
  | check name count =>
    exact (h.check name count).map fun _ _ ⟨same, rest⟩ => ⟨congrArg Response.entry same, rest⟩
  | reconfigure update =>
    obtain ⟨same, policies⟩ := h.reconfigure update
    rw [answer_reconfigure, answer_reconfigure]
    exact .ok ⟨congrArg Response.reload same, policies, h.stores⟩

end Exchanged

end PolicySet

/-- New limiters of a policy with either origin. -/
theorem PolicyConfig.exchanged_limiter? {p : PolicyConfig} {settings : StoreSettings}
    {hasStore : Bool} {origin origin' : UInt64} {l l' : Limiter α}
    (made : p.limiter? α settings hasStore origin = .ok l)
    (made' : p.limiter? α settings hasStore origin' = .ok l') (name : String) :
    Policy.Exchanged (Equiv.swap origin origin') name ⟨p, l⟩ ⟨p, l'⟩ := by
  obtain ⟨key, algorithm, backend, limit, burst, millis⟩ := p
  cases backend with
  | inProcess =>
    -- A limiter in process has no names.
    obtain rfl : l = l' := Except.ok.inj (made.symm.trans made')
    refine ⟨rfl, .refl .., ?_⟩
    cases algorithm <;> obtain ⟨k, -, rfl⟩ := exists_of_map_eq_ok made <;> rfl
  | shared =>
    cases hasStore with
    | false => cases made
    | true =>
      cases algorithm with
      | tokenBucket => cases made
      | leakyBucket =>
        obtain rfl : l = l' := Except.ok.inj (made.symm.trans made')
        obtain ⟨s, -, rfl⟩ := exists_of_map_eq_ok made
        exact ⟨rfl, .refl .., rfl⟩
      | slidingWindow =>
        obtain ⟨s, created, rfl⟩ := exists_of_map_eq_ok made
        obtain ⟨k, first, rfl⟩ := exists_of_map_eq_ok created
        obtain ⟨s', created', rfl⟩ := exists_of_map_eq_ok made'
        obtain ⟨k', second, rfl⟩ := exists_of_map_eq_ok created'
        obtain rfl : k = k' := Except.ok.inj (first.symm.trans second)
        refine ⟨rfl, .sharedSlidingWindow (.refl ..), ?_⟩
        simp [Limiter.members?, MemberNames.exchanged, MemberNames.ofOrigin]
      | slidingLog =>
        obtain ⟨s, created, rfl⟩ := exists_of_map_eq_ok made
        obtain ⟨k, first, rfl⟩ := exists_of_map_eq_ok created
        obtain ⟨s', created', rfl⟩ := exists_of_map_eq_ok made'
        obtain ⟨k', second, rfl⟩ := exists_of_map_eq_ok created'
        obtain rfl : k = k' := Except.ok.inj (first.symm.trans second)
        refine ⟨rfl, .sharedSlidingLog (.refl ..), ?_⟩
        simp [Limiter.members?, MemberNames.exchanged, MemberNames.ofOrigin]

namespace PolicySet

variable {config : LimiterConfig} {hasStore : Bool} {origin origin' : ℕ → UInt64}
  {set set' : PolicySet α} {store : Store}

/-- Two sets of one configuration over a store without names of their origins. -/
theorem exists_exchanged (built : build? config hasStore origin = .ok set)
    (built' : build? config hasStore origin' = .ok set')
    (foreign : store.Foreign (Set.range origin ∪ Set.range origin')) :
    ∃ e : String → Equiv.Perm UInt64, ∀ now, Exchanged e now (set, store) (set', store) := by
  have related := related_of_build? (R := fun name p p' =>
    ∃ n, Policy.Exchanged (Equiv.swap (origin n) (origin' n)) name p p') rfl
    (List.forall₂_same.2 fun p _ => ⟨rfl, fun n _ _ made made' =>
      ⟨n, p.exchanged_limiter? made made' p.name⟩⟩) built built'
  have each : ∀ name, ∃ n, Option.Rel
      (Policy.Exchanged (Equiv.swap (origin n) (origin' n)) name)
      (set.policies.get? name) (set'.policies.get? name) := by
    intro name
    have here := related name
    generalize set.policies.get? name = held, set'.policies.get? name = held' at here ⊢
    cases here with
    | none => exact ⟨0, .none⟩
    | some exchanged => exact exchanged.imp fun n => .some
  choose n exchanged using each
  refine ⟨fun name => Equiv.swap (origin (n name)) (origin' (n name)), fun now =>
    ⟨coherent_build? built, exchanged, fun name => ?_⟩⟩
  exact foreign.agree (.inl ⟨_, rfl⟩) (.inr ⟨_, rfl⟩) now name

/-- Actions on policies over a store in memory. -/
def inMemory (α : Type) [Arithmetic α] (actions : List (Instant × Action)) :
    List (Context Store × Action) :=
  actions.map fun (now, action) => (Store.context α now, action)

theorem replies_eq_of_exchanged {e : String → Equiv.Perm UInt64} {s s' : PolicySet α × Store}
    {actions : List (Instant × Action)} (ordered : (actions.map Prod.fst).Pairwise (· ≤ ·))
    (h : ∀ a ∈ actions, Exchanged e a.1 s s') :
    replies s (inMemory α actions) = replies s' (inMemory α actions) := by
  induction actions generalizing s s' with
  | nil => rfl
  | cons a rest ih =>
    obtain ⟨now, action⟩ := a
    obtain ⟨first, ordered⟩ := List.pairwise_cons.1 ordered
    have related := (h _ List.mem_cons_self).answer action
    rw [inMemory, List.map_cons, ← inMemory, replies_cons, replies_cons]
    generalize answer s (Store.context α now, action) = x,
      answer s' (Store.context α now, action) = y at related
    cases related with
    | error fault => rfl
    | @ok x y related =>
      obtain ⟨same, exchanged⟩ := related
      have later := ih ordered fun a member =>
        exchanged.later (first _ (List.mem_map_of_mem member))
      simp only [Except.bind, same, later]

/-- **Origins do not show**: over a store in memory without names of either origins, a run is
answered alike with both. -/
theorem replies_eq_of_origins (built : build? config hasStore origin = .ok set)
    (built' : build? config hasStore origin' = .ok set')
    (foreign : store.Foreign (Set.range origin ∪ Set.range origin'))
    {actions : List (Instant × Action)} (ordered : (actions.map Prod.fst).Pairwise (· ≤ ·)) :
    replies (set, store) (inMemory α actions) = replies (set', store) (inMemory α actions) := by
  obtain ⟨e, exchanged⟩ := exists_exchanged built built' foreign
  exact replies_eq_of_exchanged ordered fun a _ => exchanged a.1

end PolicySet

end Throttle
