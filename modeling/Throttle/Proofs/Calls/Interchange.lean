import Throttle.Proofs.Calls.Steps

/-!
# Requests by key and by resource

A limiter takes requests by key and by resource. A key that is new starts from the limiter's own
parameters, or from those that its resource carries. If these are the same, then it does not matter
how a request comes: a run in which some trailing requests by key are made by resource, or the other
way round, has the same outcomes and leads to the same states, also if it is such a request that
starts the state of its key.

## Main definitions

* `Limiter.CarriedBy`: a resource carries the parameters of a limiter
* `Limiter.Interchangeable`: calls that are the same request by key and by resource, or the same
  call

## Main results

* `Limiter.check_eq_allow`: a request by resource is the one by key
* `Limiter.carriedBy_iff_of_step`: a call keeps the parameters of a limiter
* `Limiter.run_of_interchangeable`: **requests by key and by resource can be interchanged in a run**
-/

namespace Throttle

/-! ## Keys and resources -/

namespace Keyed

variable {P S L : Type} {scheme : Scheme P S L} {k : Keyed scheme} {r : Resource}

/-- A resource carries the parameters of states that start from a key alone. -/
def CarriedBy (k : Keyed scheme) (r : Resource) : Prop :=
  scheme.ofResource k.defaults r = k.defaults

/-- A resource that carries the parameters of a key is used like the key. -/
theorem obtainFor_eq_obtain (carried : k.CarriedBy r) :
    k.obtainFor r = .ok (k.obtain r.name) := by
  have started : scheme.stateOf? k.defaults r (k.get? r.name) = .ok (k.state r.name) := by
    rw [state]
    cases k.get? r.name with
    | some s => rfl
    | none =>
      rw [Scheme.stateOf?, carried, k.valid]
      rfl
  rw [obtainFor_eq, obtain_eq, started]
  rfl

theorem check_eq_allow (carried : k.CarriedBy r)
    (decide : S → Except Fault (S × Except LimiterError Bool)) :
    k.check decide r = k.allow decide r.name := by
  rw [check, obtainFor_eq_obtain carried]
  rfl

/-- Resources that carry the parameters go on carrying them. -/
theorem AgreeOn.carriedBy_iff {keys : Set String} {k' : Keyed scheme} (agree : k.AgreeOn keys k') :
    k'.CarriedBy r ↔ k.CarriedBy r := by
  rw [CarriedBy, CarriedBy, agree.defaults]

end Keyed

/-! ## Requests to a store -/

section Shared

variable {σ : Type} {ctx : Context σ} {state : σ} {r : Resource}

theorem SharedLeakyBucket.check_eq_allow {α : Type} [Arithmetic α] {l : SharedLeakyBucket α}
    (carried : l.keyed.CarriedBy r) (n : ℕ) :
    l.check ctx state r n = l.allow ctx state r.name n := by
  unfold check allow
  rw [Keyed.obtainFor_eq_obtain carried]

theorem SharedSlidingWindow.check_eq_allow {l : SharedSlidingWindow}
    (carried : l.keyed.CarriedBy r) : l.check ctx state r = l.allow ctx state r.name := by
  unfold check allow
  rw [Keyed.obtainFor_eq_obtain carried]

theorem SharedSlidingLog.check_eq_allow {l : SharedSlidingLog} (carried : l.keyed.CarriedBy r)
    (o : AllowOptions) : l.check ctx state r o = l.allow ctx state r.name o := by
  unfold check allow
  rw [Keyed.obtainFor_eq_obtain carried]

end Shared

/-! ## Trailing requests -/

section Trailing

variable {o o' : AllowOptions}

/-- Trailing requests of one weight are the same to a log. -/
theorem SlidingLog.decide_of_trailing (trailing : o.fixedWindow = false)
    (trailing' : o'.fixedWindow = false) (weight : o'.weight = o.weight) (now : Instant)
    (l : SlidingLog) : decide now o' l = decide now o l := by
  have bounds : l.bounds now o' = l.bounds now o :=
    AllowOptions.windowBounds_of_trailing trailing trailing' ..
  rw [decide, decide, weight, allow, allow, bounds]

/-- So they are to a shared one. -/
theorem SharedSlidingLog.allow_of_trailing {σ : Type} (trailing : o.fixedWindow = false)
    (trailing' : o'.fixedWindow = false) (weight : o'.weight = o.weight) (ctx : Context σ)
    (l : SharedSlidingLog) (state : σ) (key : String) :
    l.allow ctx state key o' = l.allow ctx state key o := by
  simp only [allow, request, countedFor, AllowOptions.windowBounds_of_trailing trailing trailing',
    weight, trailing, trailing']

end Trailing

/-! ## Calls -/

namespace Limiter

variable {α σ : Type} [Arithmetic α] {ctx : Context σ} {l l' : Limiter α} {state state' : σ}
  {r : Resource} {o : AllowOptions} {count : ℕ}

/-- A resource carries the parameters with which a limiter has been made, as far as its algorithm
has a use for them. The rate of a bucket is then the value of the resource's limit. -/
def CarriedBy : Limiter α → Resource → Prop
  | tokenBucket k => k.CarriedBy
  | leakyBucket k => k.CarriedBy
  | slidingWindow k => k.CarriedBy
  | slidingLog k => k.CarriedBy
  | sharedLeakyBucket s => s.keyed.CarriedBy
  | sharedSlidingWindow s => s.keyed.CarriedBy
  | sharedSlidingLog s => s.keyed.CarriedBy

/-- A call keeps the parameters with which a limiter has been made. -/
theorem carriedBy_iff_of_step {call : Call α} {outcome : Outcome}
    (made : step ctx (l, state) call = .ok ((l', state'), outcome)) (r : Resource) :
    l'.CarriedBy r ↔ l.CarriedBy r := by
  cases agreeOn_of_step made <;> exact Keyed.AgreeOn.carriedBy_iff ‹_›

/-- **A trailing request by resource is the one by key**, if the resource carries the parameters of
the limiter and the weights are the same. -/
theorem check_eq_allow (carried : l.CarriedBy r) (trailing : o.fixedWindow = false)
    (weight : o.weight = max count 1) (ctx : Context σ) (state : σ) :
    l.check ctx state r count = l.allow ctx state r.name o := by
  have units : (AllowOptions.ofCount count).weight = o.weight := weight.symm
  cases l with
  | tokenBucket k =>
    simp only [check, allow, units]
    rw [Keyed.check_eq_allow carried]
  | leakyBucket k =>
    simp only [check, allow, units]
    rw [Keyed.check_eq_allow carried]
  | slidingWindow k =>
    simp only [check, allow]
    rw [Keyed.check_eq_allow carried]
  | slidingLog k =>
    have decides : SlidingLog.decide ctx.now (.ofCount count) = SlidingLog.decide ctx.now o :=
      funext (SlidingLog.decide_of_trailing trailing rfl units ctx.now)
    simp only [check, allow]
    rw [decides, Keyed.check_eq_allow carried]
  | sharedLeakyBucket s =>
    simp only [check, allow, units]
    rw [SharedLeakyBucket.check_eq_allow carried]
  | sharedSlidingWindow s =>
    simp only [check, allow]
    rw [SharedSlidingWindow.check_eq_allow carried]
  | sharedSlidingLog s =>
    simp only [check, allow]
    rw [SharedSlidingLog.check_eq_allow carried,
      SharedSlidingLog.allow_of_trailing trailing rfl units]

/-- Two calls of a limiter are the same, or the same trailing request by key and by a resource that
carries the parameters of the limiter. -/
inductive Interchangeable (l : Limiter α) : Call α → Call α → Prop where
  | refl (call : Call α) : Interchangeable l call call
  | byResource {r : Resource} {o : AllowOptions} {count : ℕ} (carried : l.CarriedBy r)
    (trailing : o.fixedWindow = false) (weight : o.weight = max count 1) :
    Interchangeable l (.allow r.name o) (.check r count)
  | byKey {r : Resource} {o : AllowOptions} {count : ℕ} (carried : l.CarriedBy r)
    (trailing : o.fixedWindow = false) (weight : o.weight = max count 1) :
    Interchangeable l (.check r count) (.allow r.name o)

namespace Interchangeable

variable {call call' : Call α}

/-- Interchangeable calls are one step. -/
theorem step_eq (h : Interchangeable l call call') (ctx : Context σ) (state : σ) :
    step ctx (l, state) call = step ctx (l, state) call' := by
  cases h with
  | refl => rfl
  | byResource carried trailing weight =>
    rw [step, step, check_eq_allow carried trailing weight]
  | byKey carried trailing weight =>
    rw [step, step, check_eq_allow carried trailing weight]

/-- They can be interchanged after other calls as well. -/
theorem of_step {other : Call α} {outcome : Outcome} (h : Interchangeable l call call')
    (made : step ctx (l, state) other = .ok ((l', state'), outcome)) :
    Interchangeable l' call call' := by
  have carries := fun r => carriedBy_iff_of_step made r
  cases h with
  | refl => exact .refl call
  | byResource carried trailing weight => exact .byResource ((carries _).2 carried) trailing weight
  | byKey carried trailing weight => exact .byKey ((carries _).2 carried) trailing weight

end Interchangeable

/-- Interchangeable calls are the same run, each made in its context. -/
theorem run_eq_of_interchangeable {calls calls' : List (Context σ × Call α)}
    (same : List.Forall₂ (fun c c' => c.1 = c'.1 ∧ Interchangeable l c.2 c'.2) calls calls')
    (state : σ) : run (l, state) calls = run (l, state) calls' := by
  -- The calls that are left can be interchanged in the limiter that a step leads to.
  induction calls generalizing l calls' state with
  | nil =>
    cases same
    rfl
  | cons c calls ih =>
    obtain _ | ⟨⟨here, interchangeable⟩, rest⟩ := same
    rw [run, run, ← here, ← interchangeable.step_eq]
    cases made : step c.1 (l, state) c.2 with
    | error fault => rfl
    | ok next =>
      have later := ih (rest.imp fun _ _ h => ⟨h.1, h.2.of_step made⟩) next.1.2
      dsimp only
      rw [show next.1 = (next.1.1, next.1.2) from rfl, later]

/-- **Requests by key and by resource can be interchanged in a run**: after each number of calls the
outcomes are the same, and so are the states of all keys and the state of the store. -/
theorem run_of_interchangeable {calls calls' : List (Context σ × Call α)}
    (same : List.Forall₂ (fun c c' => c.1 = c'.1 ∧ Interchangeable l c.2 c'.2) calls calls')
    (state : σ) (n : ℕ) : run (l, state) (calls.take n) = run (l, state) (calls'.take n) :=
  run_eq_of_interchangeable (List.forall₂_take n same) state

/-- A new log for two units in ten seconds. -/
def twoUnits : Limiter ℚ :=
  slidingLog ⟨⟨2, .ofSeconds 10, none⟩, by decide, ∅⟩

/-- A key that carries the parameters of the log. -/
def carrier : Resource := ⟨"k", 2, 0, .ofSeconds 10⟩

/-- The key is first used by itself, and in between its limit is raised. -/
def keyFirst : List (Context Store × Call ℚ) :=
  [(Store.context ℚ ⟨0⟩, .allow "k" {}), (Store.context ℚ ⟨1⟩, .setLimit "k" 3),
    (Store.context ℚ ⟨2⟩, .check carrier 2), (Store.context ℚ ⟨3⟩, .allow "k" {})]

/-- The same requests, each by the other way. -/
def resourceFirst : List (Context Store × Call ℚ) :=
  [(Store.context ℚ ⟨0⟩, .check carrier 0), (Store.context ℚ ⟨1⟩, .setLimit "k" 3),
    (Store.context ℚ ⟨2⟩, .allow "k" { count := 2 }), (Store.context ℚ ⟨3⟩, .check carrier 1)]

/-- Both ways lead to the same states, and three units pass. -/
theorem run_of_interchangeable_twoUnits :
    ∃ last, run (twoUnits, ∅) (keyFirst.take 4) =
        .ok (last, [.ok (some true), .ok none, .ok (some true), .ok (some false)]) ∧
      run (twoUnits, ∅) (resourceFirst.take 4) =
        .ok (last, [.ok (some true), .ok none, .ok (some true), .ok (some false)]) := by
  have carried : twoUnits.CarriedBy carrier := by
    show Keyed.CarriedBy _ _
    rfl
  have same : List.Forall₂ (fun c c' => c.1 = c'.1 ∧ Interchangeable twoUnits c.2 c'.2) keyFirst
      resourceFirst :=
    .cons ⟨rfl, .byResource carried rfl rfl⟩ <| .cons ⟨rfl, .refl _⟩ <|
      .cons ⟨rfl, .byKey carried rfl rfl⟩ <| .cons ⟨rfl, .byResource carried rfl rfl⟩ .nil
  have outcomes : (run (twoUnits, ∅) (keyFirst.take 4)).map Prod.snd =
      .ok [.ok (some true), .ok none, .ok (some true), .ok (some false)] := by decide +kernel
  obtain ⟨⟨last, _⟩, ran, rfl⟩ := exists_of_map_eq_ok outcomes
  exact ⟨last, ran, (run_of_interchangeable same ∅ 4).symm.trans ran⟩

end Limiter

end Throttle
