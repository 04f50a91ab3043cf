import Throttle.Proofs.Arithmetic.Exact
import Throttle.Proofs.Isolation.Keyed
import Throttle.Proofs.Shared.Agreement

/-!
# Calls on buckets

A limiter of buckets keeps one bucket per key, and a call does something to the bucket of its key or
nothing at all. It never fails to answer, and it leaves the store alone. Both kinds of buckets are
brought up to date by a request and by a new rate, so that most of what holds of them is shown once
for both.

## Main definitions

* `Scheme.Buckets`: what the two kinds of buckets have in common
* `Scheme.Buckets.effect`: what a call does to the bucket of its key
* `Keyed.call`, `Keyed.calls`: what calls make of buckets by key, and their outcomes
* `TokenBucket.buckets`, `LeakyBucket.buckets`: the two kinds

## Main results

* `Keyed.AgreeOn.calls`: buckets that agree on all keys answer alike
* `Keyed.holds_calls`: what every call keeps of all buckets, a sequence of calls keeps
* `Limiter.step_tokenBucket`, `Limiter.step_leakyBucket`: a call on a limiter of buckets
* `Limiter.drive_wrap`: a sequence of calls on a limiter of buckets
-/

namespace Throttle

/-! ## Buckets -/

/-- What the two kinds of buckets have in common. -/
structure Scheme.Buckets {P S : Type} (scheme : Scheme P S ℚ) where
  /-- The bucket brought up to date. -/
  settle : S → Instant → S
  /-- A request to a bucket that is up to date. -/
  take : S → ℕ → S × Bool
  /-- A new rate of a bucket that is up to date. -/
  withRate : S → ℚ → S
  setCapacity : S → ℕ → S
  /-- What messages call the capacity. -/
  quantity : Quantity
  setLimit_eq : ∀ rate now,
    scheme.setLimit rate now = .when (checkRate rate) fun b => withRate (settle b now) rate
  setBurst_eq : ∀ v,
    scheme.setBurst v = .when (checkPositive quantity v) fun b => setCapacity b v
  limitOf_eq : ∀ n, scheme.limitOf n = (n : ℚ)

namespace Scheme.Buckets

variable {P S : Type} {scheme : Scheme P S ℚ} (B : scheme.Buckets)

/-- A bucket that is up to date after a request, and the answer. -/
def answer (n : ℕ) (b : S) : S × Option Bool := ((B.take b n).1, some (B.take b n).2)

/-- The bucket after a request, and the answer. -/
def request (now : Instant) (n : ℕ) (b : S) : S × Option Bool := B.answer n (B.settle b now)

/-- The bucket with a new rate, brought up to date at the old one. -/
def setRate (now : Instant) (rate : ℚ) (b : S) : S := B.withRate (B.settle b now) rate

/-- A request as limiters make it. -/
def decide (now : Instant) (n : ℕ) (b : S) : Except Fault (S × Except LimiterError Bool) :=
  .ok ((B.take (B.settle b now) n).1, .ok (B.take (B.settle b now) n).2)

/-- What a call at `now` does to the bucket of its key, with the answer to a request; or its outcome
if it does nothing. -/
def effect (now : Instant) : Call ℚ → Limiter.Outcome ⊕ (S → S × Option Bool)
  | .allow _ o => .inr (B.request now o.weight)
  | .check _ count => .inr (B.request now (AllowOptions.ofCount count).weight)
  | .take _ n => .inr (B.request now n)
  | .setRate _ rate => setter (checkRate rate) (B.setRate now rate)
  | .setBurst _ v => setter (checkPositive B.quantity v) fun b => B.setCapacity b v
  | .setLimitFor r => setter (checkRate (r.limit : ℚ)) (B.setRate now r.limit)
  | .setBurstFor r => setter (checkPositive B.quantity r.burst) fun b => B.setCapacity b r.burst
  | .shouldAllow .. | .setLimit .. | .setWindow .. | .setFixedWindow .. | .setWindowFor _ =>
    .inl (.ok none)
where
  setter (check : Except LimiterError Unit) (f : S → S) :
      Limiter.Outcome ⊕ (S → S × Option Bool) :=
    match check with
    | .ok () => .inr fun b => (f b, none)
    | .error e => .inl (.error e)

/-- The bucket after changes of its capacity. -/
def resize (b : S) (capacities : List ℕ) : S := capacities.foldl B.setCapacity b

end Scheme.Buckets

namespace Keyed

variable {P S : Type} {scheme : Scheme P S ℚ} (B : scheme.Buckets)

/-- The bucket with which a call is made. -/
def bucketFor (k : Keyed scheme) (call : Call ℚ) : Except LimiterError S :=
  match call.resource? with
  | none => .ok (k.state call.key)
  | some r => scheme.stateOf? k.defaults r (k.get? call.key)

/-- What a call at `now` makes of buckets by key, and its outcome. -/
def call (k : Keyed scheme) (now : Instant) (call : Call ℚ) : Keyed scheme × Limiter.Outcome :=
  match B.effect now call with
  | .inl outcome => (k, outcome)
  | .inr f =>
    match k.bucketFor call with
    | .error e => (k, .error e)
    | .ok b => (k.put call.key (f b).1, .ok (f b).2)

/-- Calls at the given times, and their outcomes. -/
def calls (k : Keyed scheme) : List (Instant × Call ℚ) → Keyed scheme × List Limiter.Outcome
  | [] => (k, [])
  | (now, call) :: rest =>
    let (next, outcome) := k.call B now call
    let (last, outcomes) := next.calls rest
    (last, outcome :: outcomes)

end Keyed

/-! ## Calls in sequence -/

namespace Keyed

variable {P S : Type} {scheme : Scheme P S ℚ} {B : scheme.Buckets} {k k' : Keyed scheme}
  {keys : Set String} {key : String} {b b' : S} {now : Instant} {c : Call ℚ}

/-- Buckets that agree on the key of a call answer it alike, and agree as before. -/
theorem AgreeOn.call (agree : k.AgreeOn keys k') (B : scheme.Buckets) (now : Instant)
    (own : c.key ∈ keys) :
    (k.call B now c).2 = (k'.call B now c).2 ∧
      (k.call B now c).1.AgreeOn keys (k'.call B now c).1 := by
  have same : k.bucketFor c = k'.bucketFor c := by
    unfold bucketFor
    rw [state, state, agree.defaults, agree.states own]
  unfold Keyed.call
  rw [same]
  cases B.effect now c with
  | inl outcome => exact ⟨rfl, agree⟩
  | inr f =>
    cases k'.bucketFor c with
    | error e => exact ⟨rfl, agree⟩
    | ok b => exact ⟨rfl, agree.put c.key (f b).1⟩

/-- Buckets that agree on all keys answer all calls alike. -/
theorem AgreeOn.calls (agree : k.AgreeOn Set.univ k') (B : scheme.Buckets)
    (later : List (Instant × Call ℚ)) : (k.calls B later).2 = (k'.calls B later).2 := by
  induction later generalizing k k' with
  | nil => rfl
  | cons c rest ih =>
    obtain ⟨same, agree⟩ := agree.call B c.1 (Set.mem_univ c.2.key)
    exact congrArg₂ List.cons same (ih agree)

/-- Buckets that agree on the other keys agree on all when a key gets the same bucket. -/
theorem AgreeOn.put_univ (agree : k.AgreeOn {key}ᶜ k') (b : S) :
    (k.put key b).AgreeOn Set.univ (k'.put key b) where
  defaults := agree.defaults
  states other _ := by
    rw [get?_put, get?_put]
    split
    · rfl
    · rename_i different
      exact agree.states fun same => different same.symm

theorem get?_put_self (k : Keyed scheme) (key : String) (b : S) :
    (k.put key b).get? key = some b := by
  rw [get?_put, if_pos rfl]

/-- A call changes the bucket of its key only. -/
theorem get?_call_of_ne (B : scheme.Buckets) (k : Keyed scheme) (now : Instant)
    (other : c.key ≠ key) : (k.call B now c).1.get? key = k.get? key := by
  unfold Keyed.call
  split
  · rfl
  · split
    · rfl
    · rw [get?_put, if_neg other]

/-- A call whose key has a bucket. -/
theorem call_of_held (B : scheme.Buckets) (now : Instant) (held : k.get? c.key = some b) :
    k.call B now c =
      match B.effect now c with
      | .inl outcome => (k, outcome)
      | .inr f => (k.put c.key (f b).1, .ok (f b).2) := by
  have found : k.bucketFor c = .ok b := by
    unfold bucketFor
    rw [state, held]
    split <;> rfl
  rw [Keyed.call, found]

/-- A capacity that passes is given to the bucket. -/
theorem call_setBurst (B : scheme.Buckets) (k : Keyed scheme) (now : Instant) (key : String) {v : ℕ}
    (positive : 0 < v) :
    k.call B now (.setBurst key v) = (k.put key (B.setCapacity (k.state key) v), .ok none) := by
  rw [call, Scheme.Buckets.effect, checkPositive_eq_ok_iff (u := ()).2 positive]
  rfl

/-- A rate that passes is given to the bucket. -/
theorem call_setRate (B : scheme.Buckets) (k : Keyed scheme) (now : Instant) (key : String)
    {rate : ℚ} (positive : 0 < rate) :
    k.call B now (.setRate key rate) =
      (k.put key (B.setRate now rate (k.state key)), .ok none) := by
  rw [call, Scheme.Buckets.effect, Exact.checkRate_eq_ok_iff (u := ()).2 positive]
  rfl

theorem state_of_held (held : k.get? key = some b) : k.state key = b := by
  rw [state, held, Option.getD_some]

/-! ## Buckets after any calls -/

/-- What holds of the buckets that keys have, and of new ones, holds of the bucket of every key. -/
theorem state_holds {Inv : S → Prop}
    (start : ∀ c, scheme.validate c = .ok () → Inv (scheme.start c))
    (all : ∀ key b, k.get? key = some b → Inv b) (key : String) : Inv (k.state key) := by
  rw [state]
  cases held : k.get? key with
  | none => exact start _ k.valid
  | some b => exact all key b held

/-- It also holds of the bucket with which a call is made. -/
theorem bucketFor_holds {Inv : S → Prop}
    (start : ∀ c, scheme.validate c = .ok () → Inv (scheme.start c))
    (all : ∀ key b, k.get? key = some b → Inv b) (found : k.bucketFor c = .ok b) : Inv b := by
  unfold bucketFor at found
  split at found
  · cases found
    exact state_holds start all c.key
  · rename_i r _
    cases held : k.get? c.key with
    | some b' =>
      rw [held] at found
      cases found
      exact all _ _ held
    | none =>
      rw [held, Scheme.stateOf?] at found
      cases valid : scheme.validate (scheme.ofResource k.defaults r) with
      | error e =>
        rw [valid] at found
        cases found
      | ok u =>
        rw [valid] at found
        cases found
        exact start _ valid

/-- **What every call keeps** of all buckets, a sequence of calls keeps. -/
theorem holds_calls (B : scheme.Buckets) {Inv : S → Prop} {history : List (Instant × Call ℚ)}
    (start : ∀ c, scheme.validate c = .ok () → Inv (scheme.start c))
    (effects : ∀ c ∈ history, ∀ f, B.effect c.1 c.2 = .inr f → ∀ b, Inv b → Inv (f b).1)
    (all : ∀ key b, k.get? key = some b → Inv b) :
    ∀ key b, (k.calls B history).1.get? key = some b → Inv b := by
  induction history generalizing k with
  | nil => exact all
  | cons head rest ih =>
    obtain ⟨now, c⟩ := head
    refine ih (fun c member => effects c (List.mem_cons_of_mem _ member)) fun key b held => ?_
    cases does : B.effect now c with
    | inl outcome =>
      rw [does] at held
      exact all key b held
    | inr f =>
      rw [does] at held
      cases found : k.bucketFor c with
      | error e =>
        rw [found] at held
        exact all key b held
      | ok b' =>
        simp only [found, get?_put] at held
        split at held
        · cases held
          exact effects (now, c) (by simp) f does b' (bucketFor_holds start all found)
        · exact all key b held

end Keyed

/-! ## The two kinds -/

/-- The token buckets. -/
def TokenBucket.buckets : (TokenBucket.scheme ℚ).Buckets where
  settle := refill
  take b n := if (n : ℚ) ≤ b.tokens then ({ b with tokens := b.tokens - n }, true) else (b, false)
  withRate b rate := { b with rate := rate }
  setCapacity := setCapacity
  quantity := .burst
  setLimit_eq _ _ := rfl
  setBurst_eq _ := rfl
  limitOf_eq _ := rfl

/-- The leaky buckets. -/
def LeakyBucket.buckets : (LeakyBucket.scheme ℚ).Buckets where
  settle := drain
  take b n :=
    if Arithmetic.below (b.volume : ℚ) (b.level + n) then ({ b with level := b.volume }, false)
    else ({ b with level := b.level + n }, true)
  withRate b rate := { b with rate := rate }
  setCapacity := setVolume
  quantity := .volume
  setLimit_eq _ _ := rfl
  setBurst_eq _ := rfl
  limitOf_eq _ := rfl

namespace Keyed

variable {P S : Type} {scheme : Scheme P S ℚ} {B : scheme.Buckets}

/-- A setter on a key, as far as the outcome goes. -/
theorem change_when (k : Keyed scheme) (key : String) (check : Except LimiterError Unit)
    (f : S → S) :
    k.change key (.when check f) = check.map fun _ => k.put key (f (k.state key)) := by
  cases check with
  | error e => rfl
  | ok u => exact change_apply k key f

/-- A setter on a resource. -/
theorem changeFor_when (k : Keyed scheme) (r : Resource) (check : Except LimiterError Unit)
    (f : S → S) :
    k.changeFor r (.when check f) = check.bind fun _ =>
      (scheme.stateOf? k.defaults r (k.get? r.name)).map fun b => k.put r.name (f b) := by
  cases check with
  | error e => rfl
  | ok u =>
    simp only [Change.when, changeFor, obtainFor_eq, Except.bind]
    cases scheme.stateOf? k.defaults r (k.get? r.name) with
    | error e => rfl
    | ok b => simp only [Except.map, put_put]

end Keyed

namespace Limiter

section Wrap

variable {P S σ : Type} {scheme : Scheme P S ℚ} (B : scheme.Buckets)
  (wrap : Keyed scheme → Limiter ℚ) (k : Keyed scheme) (state : σ) (now : Instant)

/-- What a call on a limiter of buckets leaves, and its outcome. -/
def wrapped (call : Call ℚ) : (Limiter ℚ × σ) × Outcome :=
  ((wrap (k.call B now call).1, state), (k.call B now call).2)

theorem answered_allow (key : String) (n : ℕ) :
    answered ((k.allow (B.decide now n) key).map fun (k, outcome) => ((wrap k, state), outcome)) =
      .ok (wrapped B wrap k state now (.take key n)) := by
  rw [Keyed.allow_eq]
  rfl

theorem answered_check (r : Resource) (count : ℕ) :
    answered ((k.check (B.decide now (AllowOptions.ofCount count).weight) r).map
      fun (k, outcome) => ((wrap k, state), outcome)) =
      .ok (wrapped B wrap k state now (.check r count)) := by
  simp only [wrapped, Keyed.check, Keyed.obtainFor_eq, Keyed.call, Keyed.bucketFor,
    Scheme.Buckets.effect, Call.resource?, Call.key]
  cases scheme.stateOf? k.defaults r (k.get? r.name) with
  | error e => rfl
  | ok b =>
    simp only [Except.map, Keyed.put_put]
    rfl

theorem changed_setLimit (key : String) (rate : ℚ) :
    changed (wrap k) state ((k.setLimit key rate now).map wrap) =
      .ok (wrapped B wrap k state now (.setRate key rate)) := by
  rw [Keyed.setLimit, B.setLimit_eq, Keyed.change_when, wrapped, Keyed.call, Scheme.Buckets.effect]
  cases checkRate rate <;> rfl

theorem changed_setBurst (key : String) (v : ℕ) :
    changed (wrap k) state ((k.setBurst key v).map wrap) =
      .ok (wrapped B wrap k state now (.setBurst key v)) := by
  rw [Keyed.setBurst, B.setBurst_eq, Keyed.change_when, wrapped, Keyed.call, Scheme.Buckets.effect]
  cases checkPositive B.quantity v <;> rfl

theorem changed_setLimitFor (r : Resource) :
    changed (wrap k) state ((k.setLimitFor r now).map wrap) =
      .ok (wrapped B wrap k state now (.setLimitFor r)) := by
  rw [Keyed.setLimitFor, B.limitOf_eq, B.setLimit_eq, Keyed.changeFor_when, wrapped, Keyed.call,
    Scheme.Buckets.effect]
  cases checkRate (r.limit : ℚ) with
  | error e => rfl
  | ok u =>
    simp only [Scheme.Buckets.effect.setter, Keyed.bucketFor, Call.resource?, Call.key]
    cases scheme.stateOf? k.defaults r (k.get? r.name) <;> rfl

theorem changed_setBurstFor (r : Resource) :
    changed (wrap k) state ((k.setBurstFor r).map wrap) =
      .ok (wrapped B wrap k state now (.setBurstFor r)) := by
  rw [Keyed.setBurstFor, B.setBurst_eq, Keyed.changeFor_when, wrapped, Keyed.call,
    Scheme.Buckets.effect]
  cases checkPositive B.quantity r.burst with
  | error e => rfl
  | ok u =>
    simp only [Scheme.Buckets.effect.setter, Keyed.bucketFor, Call.resource?, Call.key]
    cases scheme.stateOf? k.defaults r (k.get? r.name) <;> rfl

end Wrap

variable {σ : Type}

/-- A call on a limiter of token buckets. -/
theorem step_tokenBucket (ctx : Context σ) (k : Keyed (TokenBucket.scheme ℚ)) (state : σ)
    (call : Call ℚ) :
    step ctx (tokenBucket k, state) call =
      .ok (wrapped TokenBucket.buckets tokenBucket k state ctx.now call) := by
  cases call with
  | allow key o => exact answered_allow TokenBucket.buckets _ k state _ key _
  | take key n => exact answered_allow TokenBucket.buckets _ k state _ key _
  | check r count => exact answered_check TokenBucket.buckets _ k state _ r count
  | setRate key rate => exact changed_setLimit _ _ k state _ key rate
  | setBurst key v => exact changed_setBurst _ _ k state _ key v
  | setLimitFor r => exact changed_setLimitFor _ _ k state _ r
  | setBurstFor r => exact changed_setBurstFor _ _ k state _ r
  | shouldAllow | setLimit | setWindow | setFixedWindow | setWindowFor => rfl

/-- A call on a limiter of leaky buckets. -/
theorem step_leakyBucket (ctx : Context σ) (k : Keyed (LeakyBucket.scheme ℚ)) (state : σ)
    (call : Call ℚ) :
    step ctx (leakyBucket k, state) call =
      .ok (wrapped LeakyBucket.buckets leakyBucket k state ctx.now call) := by
  cases call with
  | allow key o => exact answered_allow LeakyBucket.buckets _ k state _ key _
  | take key n => exact answered_allow LeakyBucket.buckets _ k state _ key _
  | check r count => exact answered_check LeakyBucket.buckets _ k state _ r count
  | setRate key rate => exact changed_setLimit _ _ k state _ key rate
  | setBurst key v => exact changed_setBurst _ _ k state _ key v
  | setLimitFor r => exact changed_setLimitFor _ _ k state _ r
  | setBurstFor r => exact changed_setBurstFor _ _ k state _ r
  | shouldAllow | setLimit | setWindow | setFixedWindow | setWindowFor => rfl

section Run

variable {P S : Type} {scheme : Scheme P S ℚ} {B : scheme.Buckets}
  {wrap : Keyed scheme → Limiter ℚ}
  (steps : ∀ k (store : Store) now call,
    step (Store.context ℚ now) (wrap k, store) call = .ok (wrapped B wrap k store now call))

include steps in
/-- A limiter of buckets answers all calls, and leaves the store alone. -/
theorem drive_wrap (k : Keyed scheme) (store : Store) (calls : List (Instant × Call ℚ)) :
    drive (wrap k, store) calls =
      .ok ((wrap (k.calls B calls).1, store), (k.calls B calls).2) := by
  rw [drive]
  induction calls generalizing k with
  | nil => rfl
  | cons c rest ih =>
    rw [List.map_cons, run, steps]
    dsimp only [wrapped]
    rw [ih]
    rfl

end Run

end Limiter

end Throttle
