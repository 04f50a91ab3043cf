import Mathlib.Logic.Function.Basic
import Throttle.Proofs.Isolation.Limiter

/-!
# Limiters over one store

Limiters that share a store write into one keyspace, and each of them numbers the requests of all
its keys in one sequence. Still the calls about one key are answered as if there were no other
calls. A run and the run without the other calls go side by side: the limiters agree on the key, and
the stores agree on it up to the names of members, which differ in the numbers. What counts about a
name is that it is new, and it is so in both runs.

## Main definitions

* `trace`: a run with what each of its calls was answered
* `SortedSet.Matched`: sorted sets with the same scores, whose members have names from two sets
* `Limiters.step`: one of several limiters takes a call
* `Limiters.Regular`: a run in which names are new and the clock of a store does not go back
* `Limiters.Drawn`: the names that limiters have drawn so far
* `Limiters.Mirrors`: a run and the run without the calls about other keys

## Main results

* `trace_filter`: a run without some calls, from an invariant of the two runs
* `Limiters.Drawn.fresh`: the next name is new
* `Limiters.Mirrors.kept`, `Limiters.Mirrors.dropped`: a call about the key, and one about another
* `Limiters.trace_filter_key`: the calls about a key are answered as if there were no others
-/

namespace Throttle

/-! ## Runs -/

section Trace

variable {S C A : Type}

/-- The state after calls, and the calls with their answers. A fault ends the run. -/
def trace (step : S → C → Except Fault (S × A)) : S → List C → Except Fault (S × List (C × A))
  | s, [] => .ok (s, [])
  | s, c :: rest =>
    (step s c).bind fun (next, answer) =>
      (trace step next rest).map fun (last, answers) => (last, (c, answer) :: answers)

/-- **A run without some of its calls**: what holds between the two runs survives the calls that
both make, which are answered alike, and those that only the first one makes. -/
theorem trace_filter {step : S → C → Except Fault (S × A)} {keep : C → Bool}
    (Inv : List C → S → S → Prop) {calls : List C}
    (kept : ∀ {done c s s'}, done ++ [c] <+: calls → keep c = true → Inv done s s' →
      Related (fun x y => x.2 = y.2 ∧ Inv (done ++ [c]) x.1 y.1) (step s c) (step s' c))
    (dropped : ∀ {done c s s' x}, done ++ [c] <+: calls → keep c = false → Inv done s s' →
      step s c = .ok x → Inv (done ++ [c]) x.1 s')
    {s s' last : S} {answers : List (C × A)} (start : Inv [] s s')
    (ran : trace step s calls = .ok (last, answers)) :
    ∃ last', trace step s' (calls.filter keep) =
      .ok (last', answers.filter fun e => keep e.1) := by
  suffices rest_filter : ∀ rest done s s' last answers, done ++ rest = calls → Inv done s s' →
      trace step s rest = .ok (last, answers) → ∃ last', trace step s' (rest.filter keep) =
        .ok (last', answers.filter fun e => keep e.1) from
    rest_filter calls [] s s' last answers rfl start ran
  intro rest
  induction rest with
  | nil =>
    intro done s s' last answers _ _ ran
    cases ran
    exact ⟨s', rfl⟩
  -- The invariant is about the calls that are done, and the induction takes up those that are left.
  | cons c rest ih =>
    intro done s s' last answers whole inv ran
    obtain ⟨x, stepped, goesOn⟩ := exists_of_bind_eq_ok ran
    obtain ⟨⟨_, answers⟩, ranRest, same⟩ := exists_of_map_eq_ok goesOn
    cases same
    have reached : done ++ [c] <+: calls := ⟨rest, by rw [List.append_assoc, ← whole]; rfl⟩
    have whole' : (done ++ [c]) ++ rest = calls := by rw [List.append_assoc, ← whole]; rfl
    cases keeps : keep c with
    | true =>
      obtain ⟨y, stepped', same, inv⟩ := (kept reached keeps inv).exists_of_eq_ok stepped
      obtain ⟨last', ran'⟩ := ih _ _ _ _ _ whole' inv ranRest
      refine ⟨last', ?_⟩
      simp only [List.filter_cons_of_pos keeps, trace, stepped', ran', Except.bind, Except.map,
        List.filter_cons, keeps, if_true, ← same]
    | false =>
      obtain ⟨last', ran'⟩ := ih _ _ _ _ _ whole' (dropped reached keeps inv stepped) ranRest
      refine ⟨last', ?_⟩
      rw [List.filter_cons_of_neg (by simp [keeps]), List.filter_cons_of_neg (by simp [keeps])]
      exact ran'

/-- A run ends without a fault if an invariant keeps every step from one. -/
theorem exists_trace {step : S → C → Except Fault (S × A)} (Inv : S → Prop) {calls : List C}
    (steps : ∀ s, ∀ c ∈ calls, Inv s → ∃ x, step s c = .ok x ∧ Inv x.1) {s : S} (start : Inv s) :
    ∃ last answers, trace step s calls = .ok (last, answers) := by
  induction calls generalizing s with
  | nil => exact ⟨s, [], rfl⟩
  | cons c rest ih =>
    obtain ⟨x, stepped, inv⟩ := steps s c List.mem_cons_self start
    obtain ⟨last, answers, ran⟩ :=
      ih (fun s c later => steps s c (List.mem_cons_of_mem _ later)) inv
    exact ⟨last, (c, x.2) :: answers, by simp only [trace, stepped, ran, Except.bind, Except.map]⟩

end Trace

/-! ## Sets with the same scores -/

namespace SortedSet

open MemberNames (name)

/-- A set whose members have names that were drawn for requests. -/
structure Known (drawn : Set (Int × UInt64 × UInt64)) (s : SortedSet) : Prop where
  coherent : s.Coherent
  named : ∀ unit, s.score? unit ≠ none → ∃ micros origin sequence n,
    (micros, origin, sequence) ∈ drawn ∧ unit ∈ Store.unitNames (name micros origin sequence) n

namespace Known

variable {s : SortedSet} {drawn drawn' : Set (Int × UInt64 × UInt64)}

theorem empty (drawn : Set (Int × UInt64 × UInt64)) : Known drawn ∅ :=
  ⟨coherent_empty, by simp⟩

theorem mono (h : s.Known drawn) (sub : drawn ⊆ drawn') : s.Known drawn' where
  coherent := h.coherent
  named unit scored := by
    obtain ⟨micros, origin, sequence, n, found, own⟩ := h.named unit scored
    exact ⟨micros, origin, sequence, n, sub found, own⟩

theorem removeBelow (h : s.Known drawn) (bound : Int) : (s.removeBelow bound).Known drawn where
  coherent := h.coherent.removeBelow bound
  named unit scored := by
    refine h.named unit fun absent => scored ?_
    rw [h.coherent.score?_removeBelow, absent, Option.filter_none]

variable {micros : Int} {origin sequence : UInt64}

/-- The units of a request with a new name are not there yet. -/
theorem score?_eq_none (h : s.Known drawn) (fresh : (micros, origin, sequence) ∉ drawn) {n : Nat}
    {unit : String} (own : unit ∈ Store.unitNames (name micros origin sequence) n) :
    s.score? unit = none := by
  by_contra scored
  obtain ⟨micros', origin', sequence', n', found, other⟩ := h.named unit scored
  obtain ⟨rfl, rfl, rfl⟩ := Store.eq_of_mem_unitNames own other
  exact fresh found

theorem addAll (h : s.Known drawn) (found : (micros, origin, sequence) ∈ drawn')
    (sub : drawn ⊆ drawn') (score : Int) (n : Nat) :
    (s.addAll score (Store.unitNames (name micros origin sequence) n)).Known drawn' where
  coherent := h.coherent.addAll _ _
  named unit scored := by
    rw [score?_addAll] at scored
    split at scored
    · exact ⟨micros, origin, sequence, n, found, ‹_›⟩
    · exact (h.mono sub).named unit scored

/-- The units of a request with a new name count. -/
theorem scoring_addAll (h : s.Known drawn) (fresh : (micros, origin, sequence) ∉ drawn)
    (score : Int) (n : Nat) (p : Int → Bool) :
    (s.addAll score (Store.unitNames (name micros origin sequence) n)).scoring p =
      s.scoring p + if p score then (n - 1) + 1 else 0 := by
  rw [h.coherent.scoring_addAll (Store.nodup_unitNames _ n)
    fun unit own => h.score?_eq_none fresh own]
  simp [Store.unitNames]

end Known

/-- Two sets with the same scores, whose members have names from two sets of drawn ones. -/
structure Matched (drawn drawn' : Set (Int × UInt64 × UInt64)) (s s' : SortedSet) : Prop where
  known : s.Known drawn
  known' : s'.Known drawn'
  scoring : ∀ p, s.scoring p = s'.scoring p

namespace Matched

variable {s s' : SortedSet} {drawn drawn' next next' : Set (Int × UInt64 × UInt64)}

theorem mono (h : Matched drawn drawn' s s') (sub : drawn ⊆ next) (sub' : drawn' ⊆ next') :
    Matched next next' s s' :=
  ⟨h.known.mono sub, h.known'.mono sub', h.scoring⟩

/-- Scripts do not look at names. -/
theorem indistinct (drawn drawn' : Set (Int × UInt64 × UInt64)) :
    Indistinct (Matched drawn drawn') where
  empty := ⟨.empty _, .empty _, fun _ => rfl⟩
  scoring h := h.scoring
  removeBelow h bound := by
    refine ⟨h.known.removeBelow bound, h.known'.removeBelow bound, fun p => ?_⟩
    rw [h.known.coherent.scoring_removeBelow, h.known'.coherent.scoring_removeBelow, h.scoring]

end Matched

end SortedSet

namespace Limiter

variable {α : Type} [Arithmetic α]

/-- Limiters with names are shared. -/
theorem shared_of_members? {l : Limiter α} {m : MemberNames} (named : l.members? = some m) :
    l.kind.2 = .shared := by
  cases l <;> first | rfl | cases named

/-- Limiters of one kind have names, or have none. -/
theorem members?_ne_none {l l' : Limiter α} (same : l.kind = l'.kind) (named : l.members? ≠ none) :
    l'.members? ≠ none := by
  cases l <;> cases l' <;> simp_all [kind, members?]

/-- The names that are drawn after a call at `now`, for which the limiter drew one, or none. -/
def drawnAfter (l : Limiter α) (now : Instant) (drew : Bool) (drawn : Set (Int × UInt64 × UInt64)) :
    Set (Int × UInt64 × UInt64) :=
  {d | d ∈ drawn ∨
    drew = true ∧ ∃ m, l.members? = some m ∧ d = (now.micros, m.origin, m.sequence)}

@[simp] theorem drawnAfter_false (l : Limiter α) (now : Instant)
    (drawn : Set (Int × UInt64 × UInt64)) : l.drawnAfter now false drawn = drawn := by
  simp [drawnAfter]

theorem subset_drawnAfter (l : Limiter α) (now : Instant) (drew : Bool)
    (drawn : Set (Int × UInt64 × UInt64)) : drawn ⊆ l.drawnAfter now drew drawn :=
  fun _ => .inl

end Limiter

/-- New names on both sides keep sets matched. -/
theorem SortedSet.Matched.keeps {α : Type} [Arithmetic α] {l l' : Limiter α} {m m' : MemberNames}
    (named : l.members? = some m) (named' : l'.members? = some m') {now : Instant}
    {drawn drawn' : Set (Int × UInt64 × UInt64)}
    (fresh : (now.micros, m.origin, m.sequence) ∉ drawn)
    (fresh' : (now.micros, m'.origin, m'.sequence) ∉ drawn') :
    Keeps (fun drew => Matched (l.drawnAfter now drew drawn) (l'.drawnAfter now drew drawn'))
      (m.next now.micros).2 (m'.next now.micros).2 where
  indistinct drew := indistinct ..
  mono h := by
    rw [Limiter.drawnAfter_false, Limiter.drawnAfter_false] at h
    exact h.mono (l.subset_drawnAfter ..) (l'.subset_drawnAfter ..)
  addAll h score n := by
    rw [Limiter.drawnAfter_false, Limiter.drawnAfter_false] at h
    refine ⟨h.known.addAll (.inr ⟨rfl, m, named, rfl⟩) (l.subset_drawnAfter ..) score n,
      h.known'.addAll (.inr ⟨rfl, m', named', rfl⟩) (l'.subset_drawnAfter ..) score n, fun p => ?_⟩
    exact (h.known.scoring_addAll fresh score n p).trans
      ((h.scoring p).symm ▸ (h.known'.scoring_addAll fresh' score n p).symm)

/-! ## Several limiters -/

namespace Limiters

variable {ι α : Type}

/-- A call to one of some limiters, at an instant. -/
structure Event (ι α : Type) where
  now : Instant
  limiter : ι
  call : Call α

/-- The times in microseconds of the calls to a limiter. -/
def times [DecidableEq ι] (i : ι) (events : List (Event ι α)) : List Int :=
  (events.filter fun e => e.limiter = i).map fun e => e.now.micros

variable [DecidableEq ι]

theorem times_append_singleton (i : ι) (events : List (Event ι α)) (e : Event ι α) :
    times i (events ++ [e]) =
      times i events ++ if e.limiter = i then [e.now.micros] else [] := by
  by_cases own : e.limiter = i <;> simp [times, own]

theorem ordered_times (i : ι) {events : List (Event ι α)}
    (ordered : (events.map Event.now).Pairwise (· ≤ ·)) : (times i events).Pairwise (· ≤ ·) := by
  rw [List.pairwise_map] at ordered
  exact (ordered.filter _).map _ fun _ _ before => Instant.micros_le_micros before

theorem times_sublist (i : ι) {events all : List (Event ι α)} (sub : events.Sublist all) :
    (times i events).Sublist (times i all) :=
  (sub.filter _).map _

variable [Arithmetic α]

/-- One of the limiters takes a call. -/
def step (s : (ι → Limiter α) × Store) (e : Event ι α) :
    Except Fault (((ι → Limiter α) × Store) × Limiter.Outcome) :=
  (Limiter.step (Store.context α e.now) (s.1 e.limiter, s.2) e.call).map
    fun ((l, store), outcome) => ((Function.update s.1 e.limiter l, store), outcome)

/-- New limiters with origins of their own take calls, and if any of them uses the store the clock
does not go back. No limiter with names is called more than `2 ^ 64` times within a microsecond. -/
structure Regular (limiters : ι → Limiter α) (events : List (Event ι α)) : Prop where
  unused : ∀ i m, (limiters i).members? = some m → m.sequence = 0
  apart : ∀ i j m m', (limiters i).members? = some m → (limiters j).members? = some m' →
    m.origin = m'.origin → i = j
  ordered : (∃ i, (limiters i).kind.2 = .shared) → (events.map Event.now).Pairwise (· ≤ ·)
  paced : ∀ i, (limiters i).members? ≠ none → ∀ micros, (times i events).count micros ≤ 2 ^ 64

theorem Regular.of_prefix {limiters : ι → Limiter α} {events first : List (Event ι α)}
    (h : Regular limiters events) (part : first <+: events) : Regular limiters first where
  unused := h.unused
  apart := h.apart
  ordered shared := (h.ordered shared).sublist (part.sublist.map _)
  paced i named micros :=
    ((times_sublist i part.sublist).count_le micros).trans (h.paced i named micros)

/-! ## Names -/

/-- The names that limiters have drawn in a run: those of an origin are among the names for some of
the calls to its limiter, and the limiter's next number follows them. -/
structure Drawn (drawn : Set (Int × UInt64 × UInt64)) (limiters : ι → Limiter α)
    (done : List (Event ι α)) : Prop where
  apart : ∀ i j m m', (limiters i).members? = some m → (limiters j).members? = some m' →
    m.origin = m'.origin → i = j
  among : ∀ i m, (limiters i).members? = some m → ∃ past : List Int,
    past.Sublist (times i done) ∧ m.sequence = UInt64.ofNat past.length ∧
      ∀ d ∈ drawn, d.2.1 = m.origin → d ∈ MemberNames.drawn m.origin past

namespace Drawn

variable {drawn : Set (Int × UInt64 × UInt64)} {initial limiters : ι → Limiter α}
  {done : List (Event ι α)} {e : Event ι α}

/-- New limiters have drawn nothing. -/
theorem start (regular : Regular initial done) : Drawn ∅ initial [] where
  apart := regular.apart
  among i m named := ⟨[], List.Sublist.refl _, regular.unused i m named, fun _ => nofun⟩

/-- A call to which a limiter drew no name changes nothing. -/
theorem extend (h : Drawn drawn limiters done) (e : Event ι α) :
    Drawn drawn limiters (done ++ [e]) where
  apart := h.apart
  among i m named := by
    obtain ⟨past, sub, number, among⟩ := h.among i m named
    exact ⟨past, sub.trans (times_sublist i (List.sublist_append_left ..)), number, among⟩

/-- **The next name is new.** -/
theorem fresh (h : Drawn drawn limiters done) (regular : Regular initial (done ++ [e]))
    (kind : (limiters e.limiter).kind = (initial e.limiter).kind) {m : MemberNames}
    (named : (limiters e.limiter).members? = some m) :
    (e.now.micros, m.origin, m.sequence) ∉ drawn := by
  intro found
  obtain ⟨past, sub, number, among⟩ := h.among e.limiter m named
  have next : (past ++ [e.now.micros]).Sublist (times e.limiter (done ++ [e])) := by
    rw [times_append_singleton, if_pos rfl]
    exact sub.append (List.Sublist.refl _)
  have ordered := ordered_times e.limiter
    (regular.ordered ⟨e.limiter, kind ▸ Limiter.shared_of_members? named⟩)
  have paced := regular.paced e.limiter (Limiter.members?_ne_none kind (by simp [named]))
    e.now.micros
  refine MemberNames.notMem_drawn m.origin (ordered.sublist next)
    ((next.count_le _).trans paced) ?_
  rw [← number]
  exact among _ found rfl

/-- The names after one of the limiters has taken a call. -/
theorem members?_update {l : Limiter α} {drew : Bool} {i : ι} {m : MemberNames}
    (members : l.members? = (limiters e.limiter).members?.map (MemberNames.after e.now drew))
    (named : (Function.update limiters e.limiter l i).members? = some m) :
    ∃ m₀, (limiters i).members? = some m₀ ∧
      m = if i = e.limiter then m₀.after e.now drew else m₀ := by
  by_cases own : i = e.limiter
  · subst own
    rw [Function.update_self, members, Option.map_eq_some_iff] at named
    obtain ⟨m₀, named, rfl⟩ := named
    exact ⟨m₀, named, (if_pos rfl).symm⟩
  · rw [Function.update_of_ne own] at named
    exact ⟨m, named, (if_neg own).symm⟩

/-- **A call keeps account of the names**, whether or not the limiter drew one for it. -/
theorem step (h : Drawn drawn limiters done) {l : Limiter α} {drew : Bool}
    (members : l.members? = (limiters e.limiter).members?.map (MemberNames.after e.now drew)) :
    Drawn ((limiters e.limiter).drawnAfter e.now drew drawn)
      (Function.update limiters e.limiter l) (done ++ [e]) where
  apart i j m m' named named' same := by
    obtain ⟨m₀, before, rfl⟩ := members?_update members named
    obtain ⟨m₀', before', rfl⟩ := members?_update members named'
    refine h.apart i j m₀ m₀' before before' ?_
    split at same <;> split at same <;> simpa using same
  among i m named := by
    obtain ⟨m₀, before, rfl⟩ := members?_update members named
    obtain ⟨past, sub, number, among⟩ := h.among i m₀ before
    have longer := sub.trans (times_sublist i (List.sublist_append_left done [e]))
    by_cases own : i = e.limiter
    · subst own
      rw [if_pos rfl]
      cases drew with
      | false => exact ⟨past, longer, number, by simpa [MemberNames.after] using among⟩
      | true =>
        -- The limiter draws its next number.
        refine ⟨past ++ [e.now.micros], ?_, ?_, fun d found own => ?_⟩
        · rw [times_append_singleton, if_pos rfl]
          exact sub.append (List.Sublist.refl _)
        · rw [List.length_append, List.length_singleton, UInt64.ofNat_add, ← number]
          rfl
        · rw [MemberNames.origin_after] at own
          rw [MemberNames.origin_after, MemberNames.drawn_append_singleton]
          obtain old | ⟨-, m', named', rfl⟩ := found
          · exact List.mem_append_left _ (among d old own)
          · rw [before, Option.some.injEq] at named'
            subst named'
            rw [number]
            exact List.mem_append_right _ (List.mem_singleton_self _)
    · rw [if_neg own]
      refine ⟨past, longer, number, fun d found same => ?_⟩
      obtain old | ⟨-, m', named', rfl⟩ := found
      · exact among d old same
      -- A name of another limiter has another origin.
      · exact absurd (h.apart _ _ _ _ before named' same.symm) own

/-- A call for which a limiter draws no name changes nothing. -/
theorem unnamed (h : Drawn drawn limiters done) {l : Limiter α}
    (members : l.members? = (limiters e.limiter).members?) :
    Drawn drawn (Function.update limiters e.limiter l) (done ++ [e]) := by
  have same : MemberNames.after e.now false = id := rfl
  have members' : l.members? =
      (limiters e.limiter).members?.map (MemberNames.after e.now false) := by
    rw [members, same, Option.map_id, id]
  simpa using h.step members'

end Drawn

/-! ## Side by side -/

/-- A run of limiters from `initial` over a store, and the run without the calls about other keys:
the limiters agree on the key, and so do the stores whenever the next call may be made. -/
structure Mirrors (key : String) (initial : ι → Limiter α) (done : List (Event ι α))
    (s s' : (ι → Limiter α) × Store) : Prop where
  kind : ∀ i, (s.1 i).kind = (initial i).kind
  agree : ∀ i, (s.1 i).AgreeOn {key} (s'.1 i)
  stores : ∃ drawn drawn', Drawn drawn s.1 done ∧ Drawn drawn' s'.1 done ∧
    ∀ later, ((∃ i, (initial i).kind.2 = .shared) → ∀ e ∈ done, e.now ≤ later) →
      s.2.Agree (SortedSet.Matched drawn drawn') later key s'.2

namespace Mirrors

variable {key : String} {initial : ι → Limiter α} {done : List (Event ι α)} {e : Event ι α}
  {s s' : (ι → Limiter α) × Store}

/-- New limiters mirror themselves over a store without keys. -/
theorem start (key : String) {events : List (Event ι α)} (regular : Regular initial events) :
    Mirrors key initial [] (initial, ∅) (initial, ∅) where
  kind _ := rfl
  agree _ := .refl ..
  stores := ⟨∅, ∅, .start regular, .start regular, fun _ _ => ⟨rfl, .of_none rfl rfl⟩⟩

/-- A call keeps the kinds of all limiters. -/
theorem kind_update (h : Mirrors key initial done s s') {l : Limiter α} {keys : Set String}
    (others : (s.1 e.limiter).AgreeOn keys l) (i : ι) :
    (Function.update s.1 e.limiter l i).kind = (initial i).kind := by
  by_cases own : i = e.limiter
  · subst own
    rw [Function.update_self, ← others.kind_eq, h.kind]
  · rw [Function.update_of_ne own, h.kind]

/-- Limiters agree after a call to one of them on both sides if these agree. -/
theorem agree_update {limiters limiters' : ι → Limiter α}
    (agree : ∀ i, (limiters i).AgreeOn {key} (limiters' i)) {l l' : Limiter α}
    (own : l.AgreeOn {key} l') (i : ι) :
    (Function.update limiters e.limiter l i).AgreeOn {key}
      (Function.update limiters' e.limiter l' i) := by
  by_cases same : i = e.limiter
  · subst same
    rwa [Function.update_self, Function.update_self]
  · rw [Function.update_of_ne same, Function.update_of_ne same]
    exact agree i

/-- What comes last is not earlier than what came before. -/
theorem le_now (regular : Regular initial (done ++ [e]))
    (shared : ∃ i, (initial i).kind.2 = .shared) : ∀ e' ∈ done, e'.now ≤ e.now := by
  have ordered := regular.ordered shared
  rw [List.map_append, List.pairwise_append] at ordered
  exact fun e' found => ordered.2.2 _ (List.mem_map_of_mem found) _ (by simp)

/-- **A call about the key is answered alike**, and what is left is still side by side. -/
theorem kept (h : Mirrors key initial done s s') (regular : Regular initial (done ++ [e]))
    (own : e.call.key = key) :
    Related (fun x y => x.2 = y.2 ∧ Mirrors key initial (done ++ [e]) x.1 y.1) (step s e)
      (step s' e) := by
  obtain ⟨drawn, drawn', names, names', stores⟩ := h.stores
  subst own
  have kind := h.kind e.limiter
  have kind' := (h.agree e.limiter).kind_eq.symm.trans kind
  have ready : Limiter.Ready (fun drew => SortedSet.Matched
      ((s.1 e.limiter).drawnAfter e.now drew drawn)
      ((s'.1 e.limiter).drawnAfter e.now drew drawn')) e.now e.call.key
      (s.1 e.limiter, s.2) (s'.1 e.limiter, s'.2) := by
    refine ⟨fun m named m' named' => SortedSet.Matched.keeps named named'
      (names.fresh regular kind named) (names'.fresh regular kind' named'), fun shared => ?_⟩
    rw [Limiter.drawnAfter_false, Limiter.drawnAfter_false]
    exact stores e.now fun _ => le_now regular ⟨e.limiter, kind ▸ shared⟩
  refine (Limiter.step_related (h.agree e.limiter) rfl ready).map ?_
  rintro ⟨⟨l, store⟩, _⟩ ⟨⟨l', store'⟩, _⟩ ⟨same, agree, others, effect⟩
  refine ⟨same, kind_update h others, agree_update h.agree agree, ?_⟩
  -- Without a script the sets of drawn names stay; with one, each grows by the name it was given.
  cases effect with
  | none untouched untouched' members members' =>
    obtain rfl : store = s.2 := untouched
    obtain rfl : store' = s'.2 := untouched'
    exact ⟨drawn, drawn', names.unnamed members, names'.unnamed members', fun later order =>
      stores later fun shared e' found => order shared e' (List.mem_append_left _ found)⟩
  | script drew shared members members' after =>
    exact ⟨_, _, names.step members, names'.step members', fun later order =>
      after.agree.later (order ⟨e.limiter, kind ▸ shared⟩ e (by simp))⟩

/-- **A call about another key leaves no trace** under the key. -/
theorem dropped (h : Mirrors key initial done s s') (other : e.call.key ≠ key)
    {x : ((ι → Limiter α) × Store) × Limiter.Outcome} (stepped : step s e = .ok x) :
    Mirrors key initial (done ++ [e]) x.1 s' := by
  obtain ⟨⟨⟨l, store⟩, _⟩, called, rfl⟩ := exists_of_map_eq_ok stepped
  obtain ⟨drawn, drawn', names, names', stores⟩ := h.stores
  obtain ⟨others, _, effect⟩ := Limiter.step_others called
  refine ⟨kind_update h others, fun i => ?_, ?_⟩
  · -- In the other run nobody is called.
    have still := (others.mono (Set.singleton_subset_iff.2 other.symm)).symm.trans
      (h.agree e.limiter)
    simpa using agree_update (e := e) h.agree still i
  · cases effect with
    | none untouched _ members _ =>
      obtain rfl : store = s.2 := untouched
      exact ⟨drawn, drawn', names.unnamed members, names'.extend e, fun later order =>
        stores later fun shared e' found => order shared e' (List.mem_append_left _ found)⟩
    | script drew shared members _ after =>
      refine ⟨_, drawn', names.step members, names'.extend e, fun later order => ?_⟩
      have before := stores later fun shared e' found =>
        order shared e' (List.mem_append_left _ found)
      exact (before.of_sameBut after.others other.symm
        (order ⟨e.limiter, h.kind e.limiter ▸ shared⟩ e (by simp))).mono fun _ _ matched =>
          matched.mono (Limiter.subset_drawnAfter ..) subset_rfl

end Mirrors

/-- **The calls about a key are answered as if there were no others**, whichever of the limiters
they go to. -/
theorem trace_filter_key {limiters : ι → Limiter α} {events : List (Event ι α)}
    (regular : Regular limiters events) (key : String) {last : (ι → Limiter α) × Store}
    {answers : List (Event ι α × Limiter.Outcome)}
    (ran : trace step (limiters, ∅) events = .ok (last, answers)) :
    ∃ last', trace step (limiters, ∅) (events.filter fun e => e.call.key = key) =
      .ok (last', answers.filter fun e => e.1.call.key = key) :=
  trace_filter (Mirrors key limiters)
    (fun reached own h => h.kept (regular.of_prefix reached) (by simpa using own))
    (fun _ other h stepped => h.dropped (by simpa using other) stepped)
    (.start key regular) ran

/-- Shared windows that have the window `window` for every key, and whose keys get a lifetime. -/
def Windows (window : Span) (limiters : ι → Limiter α) : Prop :=
  ∀ i, ∃ w : SharedSlidingWindow, limiters i = .sharedSlidingWindow w ∧
    (∀ key, (w.keyed.state key).window = window) ∧ (window.plus? w.grace).isSome

/-- Requests to shared windows do not fault at times from which the window reaches back. -/
theorem exists_trace_windows {window : Span} {length : Int} (reads : window.window? = .ok length)
    {limiters : ι → Limiter α} (windows : Windows window limiters) (store : Store)
    {events : List (Event ι α)} (served : ∀ e ∈ events, (e.now.shift? (-length)).isSome ∧
      ∃ key o, e.call = .allow key o) :
    ∃ last answers, trace step (limiters, store) events = .ok (last, answers) := by
  refine exists_trace (fun s => Windows window s.1) (fun s e found windows => ?_) windows
  obtain ⟨reaches, key, o, called⟩ := served e found
  obtain ⟨w, is, state, lasts⟩ := windows e.limiter
  obtain ⟨boundary, reaches⟩ := Option.isSome_iff_exists.1 reaches
  obtain ⟨lifetime, lasts⟩ := Option.isSome_iff_exists.1 lasts
  have params : (w.keyed.obtain key).2.window = window := by rw [Keyed.obtain_snd, state]
  let next : SharedSlidingWindow :=
    { w with keyed := (w.keyed.obtain key).1, members := (w.members.next e.now.micros).1 }
  have answered : ∃ store' outcome, w.allow (Store.context α e.now) s.2 key =
      .ok ((next, store'), outcome) := by
    simp only [SharedSlidingWindow.allow, SharedSlidingWindow.request, params, reads,
      Store.now_context, reaches, Store.eval_context, lasts]
    exact ⟨_, _, rfl⟩
  obtain ⟨store', outcome, answered⟩ := answered
  refine ⟨((Function.update s.1 e.limiter (.sharedSlidingWindow next), store'), outcome.map some),
    ?_, fun i => ?_⟩
  · simp only [step, called, is, Limiter.step, Limiter.allow, answered, Limiter.answered,
      Except.map]
  · by_cases own : i = e.limiter
    · subst own
      exact ⟨next, Function.update_self .., fun key' => by rw [Keyed.state_obtain, state],
        by rw [lasts]; rfl⟩
    · obtain ⟨w', is', still⟩ := windows i
      exact ⟨w', (Function.update_of_ne own ..).trans is', still⟩

end Limiters

end Throttle
