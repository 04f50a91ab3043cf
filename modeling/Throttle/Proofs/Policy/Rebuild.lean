import Throttle.Proofs.Arithmetic.Rounding
import Throttle.Proofs.Isolation.Origins

/-!
# Reloads and new policy sets

An update of a policy can be put in force in two ways: by a reload of the set in use, or by a new
set from the configuration with the update. Both refuse the same updates. If the policy has not been
used, they also lead to the same: the reload starts a state that counts from its instant and takes
the new parameters in three steps, the new set starts it with the first check, and no check can tell
the two. This holds of rounded numbers, too: a full bucket stays full and a dry one dry.

## Main definitions

* `LimiterConfig.replace`: a configuration with an update in its place
* `Policy.Renewed`: a new policy beside one that is made after an update
* `PolicySet.Awaits`: a set in which an update can be put in force, beside a new set with it
* `PolicySet.Around`: a run around the reload of a policy that has not been used before

## Main results

* `TokenBucket.akin_full`, `LeakyBucket.akin_dry`: a new bucket whose rate and capacity are set
* `Limiter.Akin.start`: a new limiter after a reload, beside one with the parameters of the reload
* `PolicySet.reconfigure_eq_ok_iff_exists_build?`: a reload and a new set refuse the same updates
* `PolicySet.Awaits.answer`, `PolicySet.Awaits.reload`: an action before the reload, and the reload
* `PolicySet.reload_agrees_with_rebuild`: a reload agrees with a new set
-/

namespace Throttle

/-! ## Buckets -/

section Buckets

variable {α : Type} [Arithmetic α] [Arithmetic.Rounding α] (now : Instant)

/-- **A new bucket whose rate and capacity are set** is still full whenever it is asked. -/
theorem TokenBucket.akin_full {c : Config α} (valid : c.validate = .ok ()) :
    Akin {t | now ≤ t} (((full c).setRate now c.rate).setCapacity c.burst) (full c) := by
  have set : ((full c).setRate now c.rate).setCapacity c.burst =
      ⟨c.burst, c.rate, (c.burst : α), some now⟩ := by
    simp only [full, setRate, refill, setCapacity, Arithmetic.lesser_self]
  intro t later
  rw [set]
  by_cases same : t ≤ now
  · obtain rfl : t = now := congrArg Instant.mk (Int.le_antisymm same later)
    rw [refill_of_le rfl same]
    rfl
  · have gain := Arithmetic.gain_nonneg now t (Config.validate_eq_ok_iff.1 valid).1
    simp only [full, refill, if_neg same, Arithmetic.lesser_natCast_add c.burst gain]

/-- **A new bucket whose rate and volume are set** is still dry whenever it is asked. -/
theorem LeakyBucket.akin_dry {c : Config α} (valid : c.validate = .ok ()) :
    Akin {t | now ≤ t} (((dry c).setRate now c.rate).setVolume c.volume) (dry c) := by
  obtain ⟨rate, volume⟩ := Config.validate_eq_ok_iff.1 valid
  have set : ((dry c).setRate now c.rate).setVolume c.volume =
      ⟨c.volume, c.rate, ((0 : ℕ) : α), some now⟩ := by
    simp only [dry, setRate, drain, setVolume, Arithmetic.lesser_zero_natCast volume]
  intro t _
  have leak := Arithmetic.gain_nonneg now t rate
  rw [set]
  simp only [dry, drain, Arithmetic.greater_zero_sub leak]

end Buckets

/-! ## Limiters -/

namespace Keyed

variable {P S L : Type} {scheme : Scheme P S L} {k k' : Keyed scheme} {r : Resource}

theorem stateFor_of_unused (unused : k.get? r.name = none) :
    k.stateFor r = scheme.start (scheme.ofResource k.defaults r) := by
  rw [stateFor, unused, Option.getD_none]

/-- A state that is put where the other limiter would start a related one. -/
theorem Akin.put_start {E E' : S → S → Prop} {rs : Set Resource} (h : k.Akin E rs k')
    (unused' : k'.get? r.name = none) {s : S}
    (related : E' s (scheme.start (scheme.ofResource k.defaults r))) :
    (k.put r.name s).Akin E' {r} k' where
  params := h.params
  states := by
    rintro _ rfl
    rwa [stateFor_put rfl, stateFor_of_unused unused', ← h.params]

end Keyed

variable {α : Type} [Arithmetic α]

/-- **A new limiter after a reload** is akin to one that has the parameters of the reload from the
beginning. -/
theorem Limiter.Akin.start [Arithmetic.Rounding α] {times : Set Instant} {rs : Set Resource}
    {l l' : Limiter α} (h : l.Akin times rs l') {r : Resource} (takes : l.Takes r)
    (unused : l.live? r.name = none) (unused' : l'.live? r.name = none) (now : Instant) :
    (l.adopt now r).Akin {t | now ≤ t} {r} l' := by
  cases h with
  | tokenBucket akin =>
    refine .tokenBucket (akin.put_start (Option.map_eq_none_iff.1 unused') ?_)
    rw [Keyed.stateFor_of_unused (Option.map_eq_none_iff.1 unused)]
    exact TokenBucket.akin_full now takes
  | leakyBucket akin =>
    refine .leakyBucket (akin.put_start (Option.map_eq_none_iff.1 unused') ?_)
    rw [Keyed.stateFor_of_unused (Option.map_eq_none_iff.1 unused)]
    exact LeakyBucket.akin_dry now takes
  | slidingWindow akin =>
    refine .slidingWindow (akin.put_start (Option.map_eq_none_iff.1 unused') ?_)
    rw [Keyed.stateFor_of_unused (Option.map_eq_none_iff.1 unused)]
    -- There is nothing in the queue to be cut.
    exact congrArg (SlidingWindow.mk r.limit r.window.nanos) List.drop_nil
  | slidingLog akin =>
    refine .slidingLog (akin.put_start (Option.map_eq_none_iff.1 unused') ?_)
    rw [Keyed.stateFor_of_unused (Option.map_eq_none_iff.1 unused)]
    rfl
  | sharedLeakyBucket akin =>
    exact .sharedLeakyBucket (akin.put_start (Option.map_eq_none_iff.1 unused') rfl)
  | sharedSlidingWindow akin =>
    exact .sharedSlidingWindow (akin.put_start (Option.map_eq_none_iff.1 unused') rfl)
  | sharedSlidingLog akin =>
    refine .sharedSlidingLog (akin.put_start (Option.map_eq_none_iff.1 unused') ?_)
    rw [Keyed.stateFor_of_unused (Option.map_eq_none_iff.1 unused)]
    rfl

/-- New limiters of one kind are akin for no resource yet. -/
theorem PolicyConfig.akin_limiter? {p update : PolicyConfig} {settings : StoreSettings}
    {hasStore : Bool} {origin : UInt64} {l l' : Limiter α}
    (algorithm_eq : p.algorithm = update.algorithm) (backend_eq : p.backend = update.backend)
    (made : p.limiter? α settings hasStore origin = .ok l)
    (made' : update.limiter? α settings hasStore origin = .ok l') : l.Akin ∅ ∅ l' := by
  obtain ⟨key, algorithm, backend, limit, burst, millis⟩ := p
  obtain ⟨key', algorithm', backend', limit', burst', millis'⟩ := update
  obtain rfl : algorithm = algorithm' := algorithm_eq
  obtain rfl : backend = backend' := backend_eq
  cases backend with
  | inProcess =>
    cases algorithm <;> obtain ⟨k, first, rfl⟩ := exists_of_map_eq_ok made <;>
      obtain ⟨k', second, rfl⟩ := exists_of_map_eq_ok made'
    case tokenBucket => exact .tokenBucket ⟨fun _ => rfl, nofun⟩
    case leakyBucket => exact .leakyBucket ⟨fun _ => rfl, nofun⟩
    case slidingWindow => exact .slidingWindow ⟨fun _ => rfl, nofun⟩
    case slidingLog =>
      -- Neither log has a fixed window that a resource could inherit.
      refine .slidingLog ⟨fun r => ?_, nofun⟩
      rw [(Keyed.create?_eq_ok first).1, (Keyed.create?_eq_ok second).1]
      rfl
  | shared =>
    cases hasStore with
    | false => cases made
    | true =>
      cases algorithm with
      | tokenBucket => cases made
      | leakyBucket =>
        obtain ⟨s, created, rfl⟩ := exists_of_map_eq_ok made
        obtain ⟨k, -, rfl⟩ := exists_of_map_eq_ok created
        obtain ⟨s', created', rfl⟩ := exists_of_map_eq_ok made'
        obtain ⟨k', -, rfl⟩ := exists_of_map_eq_ok created'
        exact .sharedLeakyBucket ⟨fun _ => rfl, nofun⟩
      | slidingWindow =>
        obtain ⟨s, created, rfl⟩ := exists_of_map_eq_ok made
        obtain ⟨k, -, rfl⟩ := exists_of_map_eq_ok created
        obtain ⟨s', created', rfl⟩ := exists_of_map_eq_ok made'
        obtain ⟨k', -, rfl⟩ := exists_of_map_eq_ok created'
        exact .sharedSlidingWindow ⟨fun _ => rfl, nofun⟩
      | slidingLog =>
        obtain ⟨s, created, rfl⟩ := exists_of_map_eq_ok made
        obtain ⟨k, first, rfl⟩ := exists_of_map_eq_ok created
        obtain ⟨s', created', rfl⟩ := exists_of_map_eq_ok made'
        obtain ⟨k', second, rfl⟩ := exists_of_map_eq_ok created'
        refine .sharedSlidingLog ⟨fun r => ?_, nofun⟩
        rw [(Keyed.create?_eq_ok first).1, (Keyed.create?_eq_ok second).1]
        rfl

/-! ## Configurations -/

/-- The configuration with an update in the place of the policy that it names. -/
def LimiterConfig.replace (c : LimiterConfig) (update : PolicyConfig) : LimiterConfig :=
  { c with policies := c.policies.map fun p => if p.name = update.name then update else p }

theorem LimiterConfig.names_replace (c : LimiterConfig) (update : PolicyConfig) :
    (c.replace update).policies.map PolicyConfig.name = c.policies.map PolicyConfig.name := by
  simp only [replace, List.map_map, List.map_inj_left, Function.comp_apply]
  intro p _
  split
  · exact Eq.symm ‹_›
  · rfl

/-- A new policy, and one of the same name that is made after an update. -/
structure Policy.Renewed (update : PolicyConfig) (name : String)
    (q q' : Policy α) : Prop where
  others : name ≠ update.name → q.Akin Set.univ (Resource.named name) q'
  own : name = update.name → q'.config = update ∧ q.limiter.Akin ∅ ∅ q'.limiter ∧
    q.limiter.live? name = none ∧ q'.limiter.live? name = none

namespace PolicySet

variable {config : LimiterConfig} {hasStore : Bool} {origin origin' : ℕ → UInt64}
  {update p : PolicyConfig} {σ : Type}

/-- A reload succeeds exactly if the update passes its tests. -/
theorem reconfigure_eq_ok_iff {set : PolicySet α} (c : set.Coherent) (now : Instant) :
    (set.reconfigure now update).2 = .ok () ↔ ∃ p, set.updatable? update = .ok p := by
  cases passed : set.updatable? update with
  | error e => simp [reconfigure_of_refused passed]
  | ok p => simp [reconfigure_of_takes passed (takes_of_updatable c passed)]

/-- There is a set with an update exactly if the update is valid by itself. -/
theorem exists_build?_replace_iff {set : PolicySet α}
    (built : build? config hasStore origin = .ok set) (known : config.policy? update.name = some p)
    (backend : p.backend = update.backend) :
    (∃ set' : PolicySet α, build? (config.replace update) hasStore origin' = .ok set') ↔
      update.validate = .ok () ∧ update.validateParameters α = .ok () := by
  obtain ⟨distinct, buildable⟩ := exists_build?_iff.1 ⟨set, built⟩
  obtain ⟨member, named⟩ := LimiterConfig.policy?_mem known
  rw [exists_build?_iff, config.names_replace, and_iff_right distinct, LimiterConfig.replace,
    List.forall_mem_map]
  constructor
  · intro all
    have updated := all p member
    rw [if_pos named] at updated
    exact ⟨updated.1, updated.2.1⟩
  · rintro ⟨valid, parameters⟩ q among
    split
    · exact ⟨valid, parameters, fun shared => (buildable p member).2.2 (backend.trans shared)⟩
    · exact buildable q among

/-- A policy of a new set has the kind that the configuration gives it. -/
theorem kind?_of_build? {set : PolicySet α} (built : build? config hasStore origin = .ok set)
    (known : config.policy? update.name = some p) (algorithm : p.algorithm = update.algorithm)
    (backend : p.backend = update.backend) :
    set.kind? update.name = some (update.algorithm, update.backend) := by
  obtain ⟨member, named⟩ := LimiterConfig.policy?_mem known
  obtain ⟨l, found⟩ := exists_get?_of_build? built member
  rw [kind?, ← named, found, Option.map_some, algorithm, backend]

/-- **A reload and a new set refuse the same updates**, whatever has been done with the set. -/
theorem reconfigure_eq_ok_iff_exists_build? {set₀ : PolicySet α}
    (built : build? config hasStore origin = .ok set₀)
    (known : config.policy? update.name = some p) (algorithm : p.algorithm = update.algorithm)
    (backend : p.backend = update.backend) {s : PolicySet α × σ} {state : σ}
    {actions : List (Context σ × Action)} (ran : run (set₀, state) actions = .ok s)
    (now : Instant) :
    (s.1.reconfigure now update).2 = .ok () ↔
      ∃ set' : PolicySet α, build? (config.replace update) hasStore origin' = .ok set' := by
  obtain ⟨coherent, kinds⟩ := run_keeps (coherent_build? built) ran
  rw [reconfigure_eq_ok_iff coherent, exists_updatable_iff,
    exists_build?_replace_iff built known backend, kinds]
  simp only [kind?_of_build? built known algorithm backend, and_true]

/-! ## The set and the new set -/

/-- The policies of a set that is built from a configuration, and of one from the configuration with
an update. -/
theorem related_replace {set set' : PolicySet α} (built : build? config hasStore origin = .ok set)
    (built' : build? (config.replace update) hasStore origin = .ok set')
    (known : config.policy? update.name = some p) (algorithm : p.algorithm = update.algorithm)
    (backend : p.backend = update.backend) (name : String) :
    Option.Rel (Policy.Renewed update name) (set.policies.get? name)
      (set'.policies.get? name) := by
  obtain ⟨member, named⟩ := LimiterConfig.policy?_mem known
  have distinct := (exists_build?_iff.1 ⟨set, built⟩).1
  refine related_of_build? (by rfl) (List.forall₂_map_right_iff.2
    (List.forall₂_same.2 fun q among => ?_)) built built' name
  refine ⟨?_, fun n l l' made made' => ⟨fun other => ?_, fun same => ?_⟩⟩
  · split
    · assumption
    · rfl
  · rw [if_neg other] at made' ⊢
    obtain rfl : l = l' := Except.ok.inj (made.symm.trans made')
    exact ⟨rfl, rfl, .refl ..⟩
  · rw [if_pos same] at made' ⊢
    obtain rfl := List.inj_on_of_nodup_map distinct among member (same.trans named.symm)
    exact ⟨rfl, PolicyConfig.akin_limiter? algorithm backend made made',
      (PolicyConfig.limiter?_eq_ok made).2.2 _, (PolicyConfig.limiter?_eq_ok made').2.2 _⟩

/-- A policy set in which an update of a policy that has not been used can be put in force, beside
a set with the update. The other policies are the same. -/
structure Awaits (update : PolicyConfig) (set set' : PolicySet α) : Prop where
  coherent : set.Coherent
  others : Side {update.name}ᶜ Set.univ Resource.named set set'
  passes : ∃ p, set.updatable? update = .ok p
  unused : ∃ p l, set.policies.get? update.name = some p ∧
    set'.policies.get? update.name = some ⟨update, l⟩ ∧ p.limiter.Akin ∅ ∅ l ∧
    p.limiter.live? update.name = none ∧ l.live? update.name = none

namespace Awaits

variable {set set' : PolicySet α}

/-- A set that is built from a configuration, beside one from the configuration with an update. -/
theorem start (built : build? config hasStore origin = .ok set)
    (built' : build? (config.replace update) hasStore origin = .ok set')
    (known : config.policy? update.name = some p) (algorithm : p.algorithm = update.algorithm)
    (backend : p.backend = update.backend) : Awaits update set set' := by
  obtain ⟨member, named⟩ := LimiterConfig.policy?_mem known
  have related := related_replace built built' known algorithm backend
  refine ⟨coherent_build? built, fun name other => ?_, ?_, ?_⟩
  · have here := related name
    generalize set.policies.get? name = held, set'.policies.get? name = held' at here ⊢
    cases here with
    | none => exact .none
    | some both => exact .some (both.others other)
  · obtain ⟨valid, parameters⟩ := (exists_build?_replace_iff built known backend).1 ⟨_, built'⟩
    exact exists_updatable_iff.2
      ⟨valid, parameters, kind?_of_build? built known algorithm backend⟩
  · obtain ⟨l, found⟩ := exists_get?_of_build? built member
    have here := related update.name
    rw [named] at found
    rw [found] at here
    generalize set'.policies.get? update.name = held' at here ⊢
    cases here with
    | @some _ q' both =>
      obtain ⟨updated, l'⟩ := q'
      obtain ⟨rfl, akin, fresh, fresh'⟩ : updated = update ∧ _ := both.own rfl
      exact ⟨_, l', found, rfl, akin, fresh, fresh'⟩

/-- **An action on another policy** is answered alike. -/
theorem answer (h : Awaits update set set') {a : Context σ × Action}
    (other : a.2.name ≠ update.name) (state : σ) :
    Related (fun x y => x.2 = y.2 ∧ x.1.2 = y.1.2 ∧ Awaits update x.1.1 y.1.1)
      (PolicySet.answer (set, state) a) (PolicySet.answer (set', state) a) := by
  have related := answer_related h.others h.coherent state other subset_rfl (fun _ _ => rfl)
    (Set.mem_univ a.1.now)
  have left : ∀ x, PolicySet.answer (set, state) a = .ok x → _ := fun x answered =>
    And.intro (answer_keeps h.coherent answered) (get?_answer_of_ne answered other)
  refine ((related.and_left left).and_right fun y answered =>
    get?_answer_of_ne answered other).mono ?_
  rintro x y ⟨⟨⟨same, states, side⟩, ⟨coherent, kinds⟩, kept⟩, kept'⟩
  refine ⟨same, states, coherent, side, ?_, by rw [kept, kept']; exact h.unused⟩
  rw [exists_updatable_iff, kinds]
  exact exists_updatable_iff.1 h.passes

/-- **The reload** succeeds, and leaves the same policies as the new set has. -/
theorem reload [Arithmetic.Rounding α] (h : Awaits update set set') (now : Instant) :
    (set.reconfigure now update).2 = .ok () ∧
      Side Set.univ {t | now ≤ t} (Function.update Resource.named update.name {update.resource})
        (set.reconfigure now update).1 set' := by
  obtain ⟨q, passed⟩ := h.passes
  obtain ⟨p, l, found, held, akin, fresh, fresh'⟩ := h.unused
  obtain rfl : p = q := Option.some.inj (found.symm.trans (updatable?_eq_ok passed).2.1)
  have takes := takes_of_updatable h.coherent passed
  rw [reconfigure_of_takes passed takes]
  refine ⟨rfl, fun name _ => ?_⟩
  rw [Table.get?_insert]
  by_cases own : name = update.name
  · subst own
    rw [if_pos rfl, held, Function.update_self]
    exact .some ⟨rfl, rfl, akin.start takes fresh fresh' now⟩
  · rw [if_neg (Ne.symm own), Function.update_of_ne own]
    exact h.others.mono (Set.subset_univ _) name own

end Awaits

/-- A run around the reload of a policy that has not been used before and is only checked after it,
on a clock that does not go back. -/
structure Around (update : PolicyConfig) (before : List (Context σ × Action)) (ctx : Context σ)
    (after : List (Context σ × Action)) : Prop where
  unused : ∀ a ∈ before, a.2.name ≠ update.name
  checked : ∀ a ∈ after, ∀ other, a.2 = .reconfigure other → other.name ≠ update.name
  ordered : (before ++ (ctx, .reconfigure update) :: after).Pairwise fun a b => a.1.now ≤ b.1.now

/-- A run with the reload, and one of the new set. -/
theorem replies_reload [Arithmetic.Rounding α] {set set' : PolicySet α}
    (h : Awaits update set set') {before after : List (Context σ × Action)} {ctx : Context σ}
    (around : Around update before ctx after) (state : σ) :
    replies (set, state) (before ++ (ctx, .reconfigure update) :: after) =
      (replies (set', state) (before ++ after)).map
        (·.insertIdx before.length (.reload (.ok ()))) := by
  induction before generalizing set set' state with
  | nil =>
    -- After the reload no update names the policy, so that its resource stays that of the update.
    obtain ⟨done, side⟩ := h.reload ctx.now
    have order := (List.pairwise_cons.1 around.ordered).1
    have same : replies ((set.reconfigure ctx.now update).1, state) after =
        replies (set', state) after := by
      refine replies_eq_of_side side (coherent_reconfigure h.coherent ctx.now update) state
        (fun a member => ⟨trivial, ?_, fun other reloads => ?_⟩) order
      · by_cases own : a.2.name = update.name
        · rw [own, Function.update_self]
          rintro _ rfl
          rfl
        · rw [Function.update_of_ne own]
      · rw [Function.update_of_ne (around.checked a member other reloads)]
        rfl
    rw [List.nil_append, List.nil_append, replies_cons, answer_reconfigure, done]
    simp only [Except.bind, same]
    rfl
  | cons a before ih =>
    obtain ⟨unused, rest⟩ := List.forall_mem_cons.1 around.unused
    have related := h.answer unused state
    rw [List.cons_append, List.cons_append, replies_cons, replies_cons]
    generalize answer (set, state) a = x, answer (set', state) a = y at related
    cases related with
    | error fault => rfl
    | @ok x y related =>
      obtain ⟨⟨next, state⟩, response⟩ := x
      obtain ⟨⟨next', _⟩, _⟩ := y
      obtain ⟨rfl, rfl, awaits⟩ := related
      have later := ih awaits ⟨rest, around.checked, (List.pairwise_cons.1 around.ordered).2⟩ state
      simp only [Except.bind, later]
      cases replies (next', state) (before ++ after) <;> rfl

/-- **A reload agrees with a new set.** For an update that keeps the algorithm and the backend of
its policy, the reload succeeds exactly if there is a set of the configuration with the update. If
the policy has not been used before, then a run around the reload is answered as the same run of the
new set. Over any store this is said of the new set with the same origins, and over a store in
memory without names of either origins of any new set. -/
theorem reload_agrees_with_rebuild [Arithmetic.Rounding α] {set₀ : PolicySet α}
    (built : build? config hasStore origin = .ok set₀)
    (known : config.policy? update.name = some p) (algorithm : p.algorithm = update.algorithm)
    (backend : p.backend = update.backend) :
    (∀ (σ : Type) (state : σ) (actions : List (Context σ × Action)) (s : PolicySet α × σ),
      run (set₀, state) actions = .ok s → ∀ now origin', (s.1.reconfigure now update).2 = .ok () ↔
        ∃ set' : PolicySet α, build? (config.replace update) hasStore origin' = .ok set') ∧
    (∀ (σ : Type) (state : σ) (before : List (Context σ × Action)) ctx after (set' : PolicySet α),
      build? (config.replace update) hasStore origin = .ok set' → Around update before ctx after →
        replies (set₀, state) (before ++ (ctx, .reconfigure update) :: after) =
          (replies (set', state) (before ++ after)).map
            (·.insertIdx before.length (.reload (.ok ())))) ∧
    ∀ (store : Store) before now after origin' (set' : PolicySet α),
      build? (config.replace update) hasStore origin' = .ok set' →
      store.Foreign (Set.range origin ∪ Set.range origin') →
      Around update (inMemory α before) (Store.context α now) (inMemory α after) →
        replies (set₀, store) (inMemory α (before ++ (now, .reconfigure update) :: after)) =
          (replies (set', store) (inMemory α (before ++ after))).map
            (·.insertIdx before.length (.reload (.ok ()))) := by
  refine ⟨fun σ state actions s ran now origin' =>
      reconfigure_eq_ok_iff_exists_build? built known algorithm backend ran now,
    fun σ state before ctx after set' built' around =>
      replies_reload (.start built built' known algorithm backend) around state,
    fun store before now after origin' set' built' foreign around => ?_⟩
  -- Between the two sets stands the one with the origins of the first.
  obtain ⟨set, same⟩ := exists_build?_iff.2 (exists_build?_iff.1 ⟨set', built'⟩)
  have reloaded := replies_reload (.start built same known algorithm backend) around store
  have ordered : (inMemory α before ++ inMemory α after).Pairwise fun a b => a.1.now ≤ b.1.now :=
    around.ordered.sublist ((List.sublist_cons_self ..).append_left _)
  rw [inMemory, inMemory, ← List.map_append, List.pairwise_map] at ordered
  have renamed := replies_eq_of_origins same built' foreign (List.pairwise_map.2 ordered)
  rw [← renamed, inMemory, inMemory, List.map_append, List.map_append, List.map_cons]
  simpa only [inMemory, List.length_map] using reloaded

/-- A bucket in process and a log in a store. -/
def bucketAndLog : LimiterConfig :=
  ⟨{}, [⟨"a", .tokenBucket, .inProcess, 5, 10, 1000⟩, ⟨"b", .slidingLog, .shared, 3, 0, 1000⟩]⟩

/-- A log of fewer requests. -/
def strictLog : PolicyConfig := ⟨"b", .slidingLog, .shared, 1, 0, 1000⟩

/-- The log is reloaded between a request of the bucket and two of the log. The new set has other
origins. -/
theorem reload_agrees_with_rebuild_of_log :
    ∃ set₀ set' : PolicySet ℚ,
      build? bucketAndLog true (fun _ => 1) = .ok set₀ ∧
      build? (bucketAndLog.replace strictLog) true (fun _ => 2) = .ok set' ∧
      replies (set₀, ∅) (inMemory ℚ [(⟨0⟩, .check "a" 8), (⟨1000⟩, .reconfigure strictLog),
          (⟨1000⟩, .check "b" 1), (⟨2000⟩, .check "b" 1)]) =
        (replies (set', ∅) (inMemory ℚ [(⟨0⟩, .check "a" 8), (⟨1000⟩, .check "b" 1),
          (⟨2000⟩, .check "b" 1)])).map (·.insertIdx 1 (.reload (.ok ()))) := by
  obtain ⟨set₀, built⟩ : ∃ set₀ : PolicySet ℚ, build? bucketAndLog true (fun _ => 1) = .ok set₀ :=
    ⟨_, rfl⟩
  have known : bucketAndLog.policy? strictLog.name =
      some ⟨"b", .slidingLog, .shared, 3, 0, 1000⟩ := rfl
  obtain ⟨-, -, replies_eq⟩ := reload_agrees_with_rebuild built known rfl rfl
  refine ⟨_, _, built, rfl, replies_eq ∅ [(⟨0⟩, .check "a" 8)] ⟨1000⟩
    [(⟨1000⟩, .check "b" 1), (⟨2000⟩, .check "b" 1)] (fun _ => 2) _ rfl
    (Store.foreign_empty _) ⟨?_, ?_, ?_⟩⟩
  · simp [inMemory, Action.name, strictLog]
  · simp [inMemory]
  · simp only [inMemory, List.map]
    decide

end PolicySet

end Throttle
