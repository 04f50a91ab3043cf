import Throttle.Proofs.Calls.Steps

/-!
# Setters in place

A setter works on the limiter itself: it checks its argument, registers its key if the key is new,
and then changes the state of the key. What it has done stays done when a later step of it fails,
while `Limiter.step` has a setter that fails put the old limiter back. It makes no difference. The
argument is checked before the key is registered, a key is registered once there is a state for it,
and nothing fails after that.

## Main definitions

* `Keyed.Setting`: steps on the states of a limiter that write as they go
* `Keyed.Setting.register`, `Keyed.Setting.assign`: the use of a key, and a setter on it, in place
* `Limiter.setInPlace`: a setter of a limiter in place

## Main results

* `Keyed.Setting.run_register`: a key that cannot be registered leaves the states as they were
* `Keyed.serve_eq_meet`: a request is served in the state that it registers in place
* `Limiter.step_eq_setInPlace`: **a setter's step is what the setter does in place**
* `Limiter.eq_of_setInPlace_error`: a setter that fails in place has written nothing
-/

namespace Throttle

/-- The end of steps that leave `s` behind if they fail. -/
def leaving {ε σ β : Type} (s : σ) : Except ε (σ × β) → EStateM.Result ε σ β
  | .ok (s, value) => .ok value s
  | .error e => .error e s

/-! ## Steps on the states -/

namespace Keyed

variable {P S L α : Type} {scheme : Scheme P S L}

/-- Steps that write as they go: what they have registered or changed stays when a later one
fails. -/
abbrev Setting (scheme : Scheme P S L) := EStateM LimiterError (Keyed scheme)

namespace Setting

/-- A check, which touches no state. -/
def ensure : Except LimiterError Unit → Setting scheme Unit
  | .ok () => return
  | .error e => throw e

/-- The state of a key. A new key is registered with a state that starts from the given parameters,
if these are valid. -/
def register (key : String) (params : P) : Setting scheme S := do
  match (← get).get? key with
  | some s => return s
  | none =>
    ensure (scheme.validate params)
    modifyGet fun k =>
      let (states, s) := k.states.settle key (scheme.start params)
      (s, { k with states := states })

/-- What a setter makes of a state, if its argument passes and it has a use. -/
def argument : Change S → Setting scheme (Option (S → S))
  | .unused => return none
  | .refused e => throw e
  | .apply f => return some f

/-- A setter on a key. A new key starts from the parameters that `params` makes of the limiter's
own. -/
def assign (key : String) (params : P → P) (change : Change S) : Setting scheme Unit := do
  match ← argument change with
  | none => return
  | some f =>
    let s ← register key (params (← get).defaults)
    modify fun k => k.put key (f s)

/-- The use of the key that a call is about. -/
def meet : Call α → Setting scheme S
  | .check r _ => do register r.name (scheme.ofResource (← get).defaults r)
  | call => do register call.key (← get).defaults

/-- A key that cannot be registered leaves the states as they were. -/
theorem run_register (k : Keyed scheme) (r : Resource) :
    (register r.name (scheme.ofResource k.defaults r)).run k = leaving k (k.obtainFor r) := by
  simp only [register, EStateM.run_bind, EStateM.run_get, obtainFor, Registry.tryObtain, get?]
  cases k.states.get? r.name with
  | some s => rfl
  | none =>
    cases scheme.validate (scheme.ofResource k.defaults r) with
    | ok => rfl
    | error e => rfl

/-- A key can be registered with the limiter's own parameters, which are valid. -/
theorem run_register_defaults (k : Keyed scheme) (key : String) :
    (register key k.defaults).run k = .ok (k.obtain key).2 (k.obtain key).1 := by
  simp only [register, EStateM.run_bind, EStateM.run_get, obtain, Registry.obtain, get?, k.valid]
  cases k.states.get? key <;> rfl

/-- A setter on a key leaves the states as they were if it fails. -/
theorem run_assign (k : Keyed scheme) (key : String) (change : Change S) :
    (assign key id change).run k = leaving k ((k.change key change).map (·, ())) := by
  cases change with
  | unused => rfl
  | refused e => rfl
  | apply f =>
    simp only [assign, argument, EStateM.run_bind, EStateM.run_pure, EStateM.run_get, id,
      run_register_defaults]
    rfl

/-- So does a setter on a resource: a resource that is refused has not been registered. -/
theorem run_assignFor (k : Keyed scheme) (r : Resource) (change : Change S) :
    (assign r.name (scheme.ofResource · r) change).run k =
      leaving k ((k.changeFor r change).map (·, ())) := by
  cases change with
  | unused => rfl
  | refused e => rfl
  | apply f =>
    simp only [assign, argument, EStateM.run_bind, EStateM.run_pure, EStateM.run_get, run_register]
    cases made : k.obtainFor r <;> simp only [changeFor, made] <;> rfl

/-- A call that meets no state leaves the states as they were. -/
theorem run_meet (k : Keyed scheme) (call : Call α) :
    (meet call).run k = leaving k (k.meet call) := by
  cases call with
  | check r count => exact run_register k r
  | _ => exact run_register_defaults k _

end Setting

/-- A request is served in the state that it registers, and leaves what that leaves if there is
none. -/
theorem serve_eq_meet (decide : Call α → S → Except Fault (S × Except LimiterError Bool))
    (k : Keyed scheme) (call : Call α) :
    k.serve decide call = match (Setting.meet call).run k with
      | .ok s k => (decide call s).map fun (s, outcome) => (k.put call.key s, outcome)
      | .error e k => .ok (k, .error e) := by
  rw [Setting.run_meet, serve]
  cases k.meet call <;> rfl

end Keyed

/-! ## Setters of a limiter -/

namespace Scheme

variable {P S L α : Type}

/-- What a setter does to a state, where `own` has the setters that not every scheme has. -/
def changeOf (scheme : Scheme P S L) (own : Call α → Change S) (now : Instant) :
    Call α → Change S
  | .setBurst _ burst => scheme.setBurst burst
  | .setWindow _ window => scheme.setWindow window
  | .setLimitFor r => scheme.setLimit (scheme.limitOf r.limit) now
  | .setBurstFor r => scheme.setBurst r.burst
  | .setWindowFor r => scheme.setWindow r.window
  | call => own call

/-- The rate of a bucket. -/
def ofRate (scheme : Scheme P S α) (now : Instant) : Call α → Change S
  | .setRate _ rate => scheme.setLimit rate now
  | _ => .unused

/-- The limit of a window. -/
def ofLimit (scheme : Scheme P S Nat) (now : Instant) : Call α → Change S
  | .setLimit _ limit => scheme.setLimit limit now
  | _ => .unused

/-- The limit and the fixed window of a log. -/
def ofLog (scheme : Scheme P S Nat) (fix : FixedWindow → S → S) (now : Instant) :
    Call α → Change S
  | .setFixedWindow _ w => .apply (fix w)
  | call => scheme.ofLimit now call

end Scheme

namespace Limiter

section Holding

variable {P S L α : Type} [Arithmetic α] {scheme : Scheme P S L}

/-- A setter on the states that a limiter holds, whatever comes of it. -/
def setHeld (hold : Keyed scheme → Limiter α) (k : Keyed scheme) (own : Call α → Change S)
    (now : Instant) (call : Call α) : EStateM.Result LimiterError (Limiter α) Unit :=
  let change := scheme.changeOf own now call
  let steps := match call.resource? with
    | some r => Keyed.Setting.assign r.name (scheme.ofResource · r) change
    | none => Keyed.Setting.assign call.key id change
  match steps.run k with
  | .ok () k => .ok () (hold k)
  | .error e k => .error e (hold k)

/-- A setter that fails leaves the limiter that holds the states as it was. -/
theorem setHeld_eq (hold : Keyed scheme → Limiter α) (k : Keyed scheme) (own : Call α → Change S)
    (now : Instant) (call : Call α) :
    setHeld hold k own now call =
      leaving (hold k) (((match call.resource? with
        | some r => k.changeFor r (scheme.changeOf own now call)
        | none => k.change call.key (scheme.changeOf own now call)).map hold).map (·, ())) := by
  unfold setHeld
  split
  · rename_i r _
    simp only [Keyed.Setting.run_assignFor]
    cases k.changeFor r (scheme.changeOf own now call) <;> rfl
  · simp only [Keyed.Setting.run_assign]
    cases k.change call.key (scheme.changeOf own now call) <;> rfl

end Holding

variable {α σ : Type} [Arithmetic α] {ctx : Context σ} {l l' : Limiter α} {state : σ}
  {call : Call α}

/-- A setter of a limiter in place. -/
def setInPlace (now : Instant) (call : Call α) : EStateM LimiterError (Limiter α) Unit
  | tokenBucket k => setHeld tokenBucket k ((TokenBucket.scheme α).ofRate now) now call
  | leakyBucket k => setHeld leakyBucket k ((LeakyBucket.scheme α).ofRate now) now call
  | slidingWindow k => setHeld slidingWindow k (SlidingWindow.scheme.ofLimit now) now call
  | slidingLog k =>
    setHeld slidingLog k (SlidingLog.scheme.ofLog (fun w l => l.setFixedWindow w) now) now call
  | sharedLeakyBucket s =>
    setHeld (fun k => sharedLeakyBucket { s with keyed := k }) s.keyed
      ((LeakyBucket.sharedScheme α).ofRate now) now call
  | sharedSlidingWindow s =>
    setHeld (fun k => sharedSlidingWindow { s with keyed := k }) s.keyed
      (SlidingWindow.sharedScheme.ofLimit now) now call
  | sharedSlidingLog s =>
    setHeld (fun k => sharedSlidingLog { s with keyed := k }) s.keyed
      (SlidingLog.sharedScheme.ofLog (fun w p => { p with fixedWindow := some w }) now) now call

/-- **A setter that fails in place leaves the limiter as it was.** -/
theorem run_setInPlace {now : Instant} {result : Except LimiterError (Limiter α)}
    (sets : l.setter? now call = some result) :
    (setInPlace now call).run l = leaving l (result.map (·, ())) := by
  -- each kind holds its states on its own; under all of them a setter is one change of a state
  cases l <;> rw [EStateM.run, setInPlace, setHeld_eq] <;> cases call <;> cases sets <;> rfl

/-- The step of a setter is its result, or nothing. -/
theorem step_of_setter {result : Except LimiterError (Limiter α)}
    (sets : l.setter? ctx.now call = some result) :
    step ctx (l, state) call = changed l state result := by
  cases call <;> cases sets <;> rfl

/-- **A setter's step is what the setter does in place**: the limiter after it has what was
registered and written, on an error too. -/
theorem step_eq_setInPlace (sets : (l.setter? ctx.now call).isSome) :
    step ctx (l, state) call = .ok (match (setInPlace ctx.now call).run l with
      | .ok () l' => ((l', state), .ok none)
      | .error e l' => ((l', state), .error e)) := by
  obtain ⟨result, sets⟩ := Option.isSome_iff_exists.1 sets
  rw [step_of_setter sets, run_setInPlace sets]
  cases result <;> rfl

/-- A setter that fails in place has written nothing. -/
theorem eq_of_setInPlace_error {now : Instant} {e : LimiterError}
    (sets : (l.setter? now call).isSome)
    (failed : (setInPlace now call).run l = .error e l') : l' = l := by
  obtain ⟨result, sets⟩ := Option.isSome_iff_exists.1 sets
  rw [run_setInPlace sets] at failed
  cases result with
  | ok next => cases failed
  | error e =>
    cases failed
    rfl

end Limiter

end Throttle
