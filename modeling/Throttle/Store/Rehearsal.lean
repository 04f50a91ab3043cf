import Throttle.Store.Executor

/-!
# Rehearsals

An executor can be rehearsed: its commands are recorded, and prepared answers come before those of
the store itself.

## Main definitions

* `Command`: a command to a store
* `Executor.recorded`: an executor that records its commands
* `Prepared`: an answer prepared for one evaluation
* `Executor.prepared`: an executor that gives prepared answers first

## Main results

* `Executor.recorded_eval_outcome`: recording changes no outcome
-/

namespace Throttle

/-- A command to a store. -/
inductive Command where
  | eval (script : Script) (keys args : List String)
  | expire (key : String) (lifetime : Span)
deriving DecidableEq, Repr

/-- A state and the commands given so far, the latest last. -/
structure Recorded (σ : Type) where
  state : σ
  commands : List Command

/-- An answer prepared for one evaluation: a delay, and then an error, a reply, or what the store
itself says. -/
structure Prepared where
  stall : Span
  failure : Option String
  reply : Option Int
deriving DecidableEq, Repr

/-- A state with prepared answers. -/
structure Rehearsed (σ : Type) where
  state : σ
  /-- The prepared answers, the next one first. -/
  answers : List Prepared
  /-- Whether a new lifetime of a key is refused. -/
  refusesExpiry : Bool

namespace Executor

variable {σ : Type}

/-- The executor that records every command. -/
def recorded (ex : Executor σ) : Executor (Recorded σ) where
  eval script keys args r :=
    let commands := r.commands ++ [.eval script keys args]
    let e := ex.eval script keys args r.state
    ⟨e.latency, e.outcome, ⟨e.finished, commands⟩, ⟨e.abandoned, commands⟩⟩
  expire key lifetime r :=
    let (state, outcome) := ex.expire key lifetime r.state
    (⟨state, r.commands ++ [.expire key lifetime]⟩, outcome)

/-- Recording changes no outcome. -/
@[simp] theorem recorded_eval_outcome (ex : Executor σ) (script : Script) (keys args : List String)
    (r : Recorded σ) :
    (ex.recorded.eval script keys args r).outcome = (ex.eval script keys args r.state).outcome :=
  rfl

/-- The executor that uses up one prepared answer per evaluation. A script that is not answered by
an error or a reply runs on the state after the delay; a caller who gives up during the delay
leaves the state as it is. -/
def prepared (ex : Executor σ) : Executor (Rehearsed σ) where
  eval script keys args r :=
    match r.answers with
    | [] =>
      let e := ex.eval script keys args r.state
      ⟨e.latency, e.outcome, { r with state := e.finished }, { r with state := e.abandoned }⟩
    | answer :: answers =>
      let rest : Rehearsed σ := { r with answers := answers }
      match answer.failure, answer.reply with
      | some text, _ => ⟨answer.stall, .error (.store (.reported text)), rest, rest⟩
      | none, some reply => ⟨answer.stall, .ok reply, rest, rest⟩
      | none, none =>
        let e := ex.eval script keys args r.state
        ⟨⟨answer.stall.nanos + e.latency.nanos⟩, e.outcome, { rest with state := e.finished },
          rest⟩
  expire key lifetime r :=
    if r.refusesExpiry then (r, .error (.store (.reported "expire refused")))
    else
      let (state, outcome) := ex.expire key lifetime r.state
      ({ r with state := state }, outcome)

end Executor

end Throttle
