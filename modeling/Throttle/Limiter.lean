import Throttle.Limiter.Local
import Throttle.Limiter.Shared

/-!
# Limiters

There are seven limiters: four local ones and three shared ones. All of them take requests by key
and by resource, and setters of their parameters.

## Main definitions

* `Limiter α`: a limiter whose buckets compute with numbers `α`
* `Limiter.allow`, `Limiter.check`: a request by key and by resource
* `Limiter.take?`, `Limiter.shouldAllow?`: the requests that only some limiters take
* `Limiter.change`: a setter on whatever states the limiter has
* `Limiter.setLimitFor`, `Limiter.setBurstFor`, `Limiter.setWindowFor`: setters on a resource
* `Call`, `Limiter.step`: every call of a limiter as one step
* `Limiter.run`: the outcomes of a sequence of calls

## Main results

* `Limiter.run_append_singleton`: the last call of a sequence is made on the states after the
  others

A step takes the limiter together with the state of the store to their next states and an outcome.
-/

namespace Throttle

/-- A limiter whose buckets compute with numbers `α`. -/
inductive Limiter (α : Type) [Arithmetic α] where
  | tokenBucket (keyed : Keyed (TokenBucket.scheme α))
  | leakyBucket (keyed : Keyed (LeakyBucket.scheme α))
  | slidingWindow (keyed : Keyed SlidingWindow.scheme)
  | slidingLog (keyed : Keyed SlidingLog.scheme)
  | sharedLeakyBucket (shared : SharedLeakyBucket α)
  | sharedSlidingWindow (shared : SharedSlidingWindow)
  | sharedSlidingLog (shared : SharedSlidingLog)

namespace Limiter

variable {α : Type} [Arithmetic α] {σ : Type}

/-- A request by key. -/
def allow (ctx : Context σ) (l : Limiter α) (state : σ) (key : String) (o : AllowOptions) :
    Except Fault ((Limiter α × σ) × Except LimiterError Bool) :=
  match l with
  | tokenBucket k => (k.allow (TokenBucket.decide ctx.now o.weight) key).map fun (k, outcome) =>
      ((tokenBucket k, state), outcome)
  | leakyBucket k => (k.allow (LeakyBucket.decide ctx.now o.weight) key).map fun (k, outcome) =>
      ((leakyBucket k, state), outcome)
  | slidingWindow k => (k.allow (SlidingWindow.decide ctx.now) key).map fun (k, outcome) =>
      ((slidingWindow k, state), outcome)
  | slidingLog k => (k.allow (SlidingLog.decide ctx.now o) key).map fun (k, outcome) =>
      ((slidingLog k, state), outcome)
  | sharedLeakyBucket s => (s.allow ctx state key o.weight).map fun ((s, state), outcome) =>
      ((sharedLeakyBucket s, state), outcome)
  | sharedSlidingWindow s => (s.allow ctx state key).map fun ((s, state), outcome) =>
      ((sharedSlidingWindow s, state), outcome)
  | sharedSlidingLog s => (s.allow ctx state key o).map fun ((s, state), outcome) =>
      ((sharedSlidingLog s, state), outcome)

/-- A request of `count` units by resource; a request of none counts as one. -/
def check (ctx : Context σ) (l : Limiter α) (state : σ) (r : Resource) (count : Nat) :
    Except Fault ((Limiter α × σ) × Except LimiterError Bool) :=
  let o := AllowOptions.ofCount count
  match l with
  | tokenBucket k => (k.check (TokenBucket.decide ctx.now o.weight) r).map fun (k, outcome) =>
      ((tokenBucket k, state), outcome)
  | leakyBucket k => (k.check (LeakyBucket.decide ctx.now o.weight) r).map fun (k, outcome) =>
      ((leakyBucket k, state), outcome)
  | slidingWindow k => (k.check (SlidingWindow.decide ctx.now) r).map fun (k, outcome) =>
      ((slidingWindow k, state), outcome)
  | slidingLog k => (k.check (SlidingLog.decide ctx.now o) r).map fun (k, outcome) =>
      ((slidingLog k, state), outcome)
  | sharedLeakyBucket s => (s.check ctx state r o.weight).map fun ((s, state), outcome) =>
      ((sharedLeakyBucket s, state), outcome)
  | sharedSlidingWindow s => (s.check ctx state r).map fun ((s, state), outcome) =>
      ((sharedSlidingWindow s, state), outcome)
  | sharedSlidingLog s => (s.check ctx state r o).map fun ((s, state), outcome) =>
      ((sharedSlidingLog s, state), outcome)

/-- A request of exactly `n` units by key, also of none. Only buckets take such requests. -/
def take? (ctx : Context σ) (l : Limiter α) (state : σ) (key : String) (n : Nat) :
    Option (Except Fault ((Limiter α × σ) × Except LimiterError Bool)) :=
  match l with
  | tokenBucket k =>
    some <| (k.allow (TokenBucket.decide ctx.now n) key).map fun (k, outcome) =>
      ((tokenBucket k, state), outcome)
  | leakyBucket k =>
    some <| (k.allow (LeakyBucket.decide ctx.now n) key).map fun (k, outcome) =>
      ((leakyBucket k, state), outcome)
  | sharedLeakyBucket s =>
    some <| (s.allow ctx state key n).map fun ((s, state), outcome) =>
      ((sharedLeakyBucket s, state), outcome)
  | _ => none

/-- A request by key with a window and a limit of its own. Only shared windows take such
requests. -/
def shouldAllow? (ctx : Context σ) (l : Limiter α) (state : σ) (key : String) (window : Span)
    (limit : Nat) : Option (Except Fault ((Limiter α × σ) × Except LimiterError Bool)) :=
  match l with
  | sharedSlidingWindow s =>
    some <| (s.shouldAllow ctx state key window limit).map fun ((s, state), outcome) =>
      ((sharedSlidingWindow s, state), outcome)
  | _ => none

/-- The limiter after a setter that every scheme of states has. -/
def change (l : Limiter α)
    (setter : ∀ {P S L : Type} {scheme : Scheme P S L},
      Keyed scheme → Except LimiterError (Keyed scheme)) : Except LimiterError (Limiter α) :=
  match l with
  | tokenBucket k => (setter k).map tokenBucket
  | leakyBucket k => (setter k).map leakyBucket
  | slidingWindow k => (setter k).map slidingWindow
  | slidingLog k => (setter k).map slidingLog
  | sharedLeakyBucket s => (setter s.keyed).map fun k => sharedLeakyBucket { s with keyed := k }
  | sharedSlidingWindow s =>
    (setter s.keyed).map fun k => sharedSlidingWindow { s with keyed := k }
  | sharedSlidingLog s => (setter s.keyed).map fun k => sharedSlidingLog { s with keyed := k }

/-- A new rate of a key's bucket. Windows and logs have no use for it. -/
def setRate (l : Limiter α) (now : Instant) (key : String) (rate : α) :
    Except LimiterError (Limiter α) :=
  match l with
  | tokenBucket k => (k.setLimit key rate now).map tokenBucket
  | leakyBucket k => (k.setLimit key rate now).map leakyBucket
  | sharedLeakyBucket s =>
    (s.keyed.setLimit key rate now).map fun k => sharedLeakyBucket { s with keyed := k }
  | l => .ok l

/-- A new limit of a key's window or log. Buckets have no use for it. -/
def setLimit (l : Limiter α) (now : Instant) (key : String) (limit : Nat) :
    Except LimiterError (Limiter α) :=
  match l with
  | slidingWindow k => (k.setLimit key limit now).map slidingWindow
  | slidingLog k => (k.setLimit key limit now).map slidingLog
  | sharedSlidingWindow s =>
    (s.keyed.setLimit key limit now).map fun k => sharedSlidingWindow { s with keyed := k }
  | sharedSlidingLog s =>
    (s.keyed.setLimit key limit now).map fun k => sharedSlidingLog { s with keyed := k }
  | l => .ok l

/-- A new capacity of a key. -/
def setBurst (l : Limiter α) (key : String) (burst : Nat) : Except LimiterError (Limiter α) :=
  l.change fun k => k.setBurst key burst

/-- A new window of a key. -/
def setWindow (l : Limiter α) (key : String) (window : Span) : Except LimiterError (Limiter α) :=
  l.change fun k => k.setWindow key window

/-- The fixed window of a key's log for requests that bring none. Only logs have a use for it. -/
def setFixedWindow (l : Limiter α) (key : String) (w : FixedWindow) : Limiter α :=
  match l with
  | slidingLog k => slidingLog (SlidingLog.setFixedWindowAt k key w)
  | sharedSlidingLog s => sharedSlidingLog (s.setFixedWindow key w)
  | l => l

/-- The limit of a resource for its state. -/
def setLimitFor (l : Limiter α) (now : Instant) (r : Resource) : Except LimiterError (Limiter α) :=
  l.change fun k => k.setLimitFor r now

/-- The capacity of a resource for its state. -/
def setBurstFor (l : Limiter α) (r : Resource) : Except LimiterError (Limiter α) :=
  l.change fun k => k.setBurstFor r

/-- The window of a resource for its state. -/
def setWindowFor (l : Limiter α) (r : Resource) : Except LimiterError (Limiter α) :=
  l.change fun k => k.setWindowFor r

/-- The number of keys that have been used. -/
def size : Limiter α → Nat
  | tokenBucket k => k.size
  | leakyBucket k => k.size
  | slidingWindow k => k.size
  | slidingLog k => k.size
  | sharedLeakyBucket s => s.keyed.size
  | sharedSlidingWindow s => s.keyed.size
  | sharedSlidingLog s => s.keyed.size

end Limiter

/-! ## Runs -/

/-- The calls of a limiter whose buckets compute with numbers `α`. -/
inductive Call (α : Type) where
  | allow (key : String) (options : AllowOptions)
  | check (resource : Resource) (count : Nat)
  /-- A request of exactly some units by key. -/
  | take (key : String) (units : Nat)
  /-- A request by key with a window and a limit of its own. -/
  | shouldAllow (key : String) (window : Span) (limit : Nat)
  | setRate (key : String) (rate : α)
  | setLimit (key : String) (limit : Nat)
  | setBurst (key : String) (burst : Nat)
  | setWindow (key : String) (window : Span)
  | setFixedWindow (key : String) (window : FixedWindow)
  | setLimitFor (resource : Resource)
  | setBurstFor (resource : Resource)
  | setWindowFor (resource : Resource)

/-- The key that a call is about. -/
def Call.key {α : Type} : Call α → String
  | allow key _ => key
  | check resource _ => resource.name
  | take key _ => key
  | shouldAllow key _ _ => key
  | setRate key _ => key
  | setLimit key _ => key
  | setBurst key _ => key
  | setWindow key _ => key
  | setFixedWindow key _ => key
  | setLimitFor resource => resource.name
  | setBurstFor resource => resource.name
  | setWindowFor resource => resource.name

/-- The resource that a call is about, if it is about one. -/
def Call.resource? {α : Type} : Call α → Option Resource
  | check resource _ => some resource
  | setLimitFor resource => some resource
  | setBurstFor resource => some resource
  | setWindowFor resource => some resource
  | _ => none

namespace Limiter

variable {α : Type} [Arithmetic α] {σ : Type}

/-- The outcome of a call: an error, or the answer to a request, or nothing more after a setter. -/
abbrev Outcome := Except LimiterError (Option Bool)

/-- A request's step as a call's step. -/
def answered (step : Except Fault ((Limiter α × σ) × Except LimiterError Bool)) :
    Except Fault ((Limiter α × σ) × Outcome) :=
  step.map fun (next, outcome) => (next, outcome.map some)

/-- A setter's result as a call's step; a setter that fails changes nothing. So it is for setters
that work in place as well (`step_eq_setInPlace`). -/
def changed (l : Limiter α) (state : σ) (result : Except LimiterError (Limiter α)) :
    Except Fault ((Limiter α × σ) × Outcome) :=
  .ok <| match result with
    | .ok l => ((l, state), .ok none)
    | .error e => ((l, state), .error e)

/-- A limit that passes its check changes the state of the key, in a limiter that holds the states
in any way. -/
theorem changed_setLimit_of_when {P S L : Type} {scheme : Scheme P S L}
    {check : Except LimiterError Unit} {f : S → S} {limit : L} {now : Instant}
    (sets : scheme.setLimit limit now = .when check f) (passes : check = .ok ())
    (hold : Keyed scheme → Limiter α) (k : Keyed scheme) (key : String) (l : Limiter α)
    (state : σ) :
    changed l state ((k.setLimit key limit now).map hold) =
      .ok ((hold (k.put key (f (k.state key))), state), .ok none) := by
  rw [Keyed.setLimit_of_when sets passes]
  rfl

/-- A call as a step of the limiter and the state of the store. A call that the limiter does not
take changes nothing. -/
def step (ctx : Context σ) : Limiter α × σ → Call α → Except Fault ((Limiter α × σ) × Outcome)
  | (l, state), .allow key o => answered (l.allow ctx state key o)
  | (l, state), .check r count => answered (l.check ctx state r count)
  | (l, state), .take key n =>
    ((l.take? ctx state key n).map answered).getD (changed l state (.ok l))
  | (l, state), .shouldAllow key window limit =>
    ((l.shouldAllow? ctx state key window limit).map answered).getD (changed l state (.ok l))
  | (l, state), .setRate key rate => changed l state (l.setRate ctx.now key rate)
  | (l, state), .setLimit key limit => changed l state (l.setLimit ctx.now key limit)
  | (l, state), .setBurst key burst => changed l state (l.setBurst key burst)
  | (l, state), .setWindow key window => changed l state (l.setWindow key window)
  | (l, state), .setFixedWindow key w => changed l state (.ok (l.setFixedWindow key w))
  | (l, state), .setLimitFor r => changed l state (l.setLimitFor ctx.now r)
  | (l, state), .setBurstFor r => changed l state (l.setBurstFor r)
  | (l, state), .setWindowFor r => changed l state (l.setWindowFor r)

/-- The outcomes of calls, each made in a context of its own, and the states after them. A fault
ends the run. -/
def run : Limiter α × σ → List (Context σ × Call α) →
    Except Fault ((Limiter α × σ) × List Outcome)
  | now, [] => .ok (now, [])
  | now, (ctx, call) :: rest =>
    match step ctx now call with
    | .error fault => .error fault
    | .ok (next, outcome) => (run next rest).map fun (last, outcomes) => (last, outcome :: outcomes)

@[simp] theorem run_nil (now : Limiter α × σ) : run now [] = .ok (now, []) := rfl

/-- The last call of a sequence is made on the states after the others. -/
theorem run_append_singleton (now : Limiter α × σ) (calls : List (Context σ × Call α))
    (ctx : Context σ) (call : Call α) :
    run now (calls ++ [(ctx, call)]) = (run now calls).bind fun (last, outcomes) =>
      (step ctx last call).map fun (next, outcome) => (next, outcomes ++ [outcome]) := by
  induction calls generalizing now with
  | nil =>
    simp only [List.nil_append, run, Except.bind]
    cases step ctx now call <;> rfl
  | cons first calls ih =>
    rw [List.cons_append, run, run]
    cases step first.1 now first.2 with
    | error fault => rfl
    | ok next =>
      simp only [ih]
      cases run next.1 calls with
      | error fault => rfl
      | ok last =>
        simp only [Except.bind, Except.map]
        cases step ctx last.1 call <;> rfl

end Limiter

end Throttle
