import Throttle.Store.Execution

/-!
# Executors

The shared limiters see a store through an executor: something that runs scripts and sets
lifetimes. It may be a store in memory or one far away, which takes time, fails, or replies with
anything.

## Main definitions

* `Timer`: what the timer of a runtime makes of a limit
* `Timer.Sound`: a wait ends no sooner than its limit, and less than a millisecond later
* `Executor σ`: how scripts run over states `σ`
* `Evaluation.needsTimer timer limit`: whether an evaluation cannot do without a timer
* `Evaluation.within timer limit`: an evaluation whose caller sets a limit
* `decision`: the answer that a reply stands for
* `Context σ`: what a call finds when it is made
* `Context.eval`: a script for a caller who sets a limit
* `Store.executor`, `Store.context`: a store in memory as an executor, and what a call to it finds

## Main results

* `decision_eq_ok_iff`: the replies 1 and 0 are the only answers
* `Timer.sound_ticking`: ticks of a millisecond are near enough, whenever a call comes
* `Evaluation.within_of_le`, `Evaluation.within_of_lt`: an evaluation counts if it finishes while
  its caller waits
* `Evaluation.within_cases`: an evaluation counts, or times out
* `Context.eval_of_scheduler`: where there is a scheduler, only the limit matters
* `Store.eval_context`: a store in memory answers at once
-/

namespace Throttle

/-! ## Timers -/

/-- What the timer of a runtime makes of a limit. -/
structure Timer where
  /-- How long a caller waits who sets a limit. If no timer can be set for the limit then the wait
  has no end. -/
  wait : (limit : Span) → Option Span

namespace Timer

/-- Timers work with a resolution of one millisecond. -/
def resolution : Span := .ofMillis 1

/-- A wait never ends before its limit, and it ends less than the resolution after it. -/
structure Sound (timer : Timer) : Prop where
  no_sooner : ∀ {limit wait : Span}, timer.wait limit = some wait → limit.nanos ≤ wait.nanos
  no_later : ∀ {limit wait : Span}, timer.wait limit = some wait →
    wait.nanos < limit.nanos + resolution.nanos

/-- A timer that ticks once in a millisecond, for a call that comes `past` nanoseconds after a tick:
the first tick that is not before the end of the limit ends the wait. No clock reads a time
`2 ^ 63 - 1` seconds ahead, so no timer is set for such a limit. -/
def ticking (past : Nat) : Timer where
  wait limit :=
    if limit.seconds < 2 ^ 63 - 1 then
      some ⟨(past + limit.nanos + 999999) / 1000000 * 1000000 - past⟩
    else none

/-- Ticks of a millisecond are near enough, whenever a call comes. -/
theorem sound_ticking (past : Nat) : (ticking past).Sound := by
  have ends {limit wait : Span} (set : (ticking past).wait limit = some wait) :
      wait.nanos = (past + limit.nanos + 999999) / 1000000 * 1000000 - past := by
    unfold ticking at set
    dsimp only at set
    split at set
    · cases set
      rfl
    · cases set
  have tick : resolution.nanos = 1000000 := rfl
  constructor
  · intro limit wait set
    rw [ends set]
    omega
  · intro limit wait set
    rw [ends set, tick]
    omega

end Timer

/-! ## Evaluations -/

/-- The course of a script's evaluation over states `σ`. -/
structure Evaluation (σ : Type) where
  latency : Span
  /-- The reply or the error with which it ends. -/
  outcome : Except LimiterError Int
  finished : σ
  /-- The state if its caller gives up before. -/
  abandoned : σ

namespace Evaluation

variable {σ : Type}

/-- An evaluation that takes no time. -/
def now (state : σ) (outcome : Except LimiterError Int) : Evaluation σ :=
  ⟨⟨0⟩, outcome, state, state⟩

/-- Whether an evaluation takes longer than a caller waits who sets a limit. -/
def isLate (e : Evaluation σ) (timer : Timer) (limit : Span) : Bool :=
  (timer.wait limit).any fun wait => decide (wait.nanos < e.latency.nanos)

/-- The state and the outcome for a caller who sets a limit. An evaluation that finishes just when
the wait ends is in time. -/
def within (e : Evaluation σ) (timer : Timer) (limit : Option Span) :
    σ × Except LimiterError Int :=
  match limit with
  | none => (e.finished, e.outcome)
  | some limit =>
    if e.isLate timer limit then (e.abandoned, .error (.timeout limit))
    else (e.finished, e.outcome)

/-- Whether an evaluation cannot do without a timer: a caller who sets a limit starts one, and an
evaluation that takes time is itself timed. -/
def needsTimer (e : Evaluation σ) (timer : Timer) (limit : Option Span) : Bool :=
  (limit.bind timer.wait).isSome || decide (0 < e.latency.nanos)

@[simp] theorem within_none (e : Evaluation σ) (timer : Timer) :
    e.within timer none = (e.finished, e.outcome) := rfl

/-- An evaluation that finishes while its caller waits counts. -/
theorem within_of_le {e : Evaluation σ} {timer : Timer} {limit : Span}
    (h : ∀ wait ∈ timer.wait limit, e.latency.nanos ≤ wait.nanos) :
    e.within timer (some limit) = (e.finished, e.outcome) := by
  have inTime : e.isLate timer limit = false := by
    unfold isLate
    cases waited : timer.wait limit with
    | none => rfl
    | some wait => simpa using h wait waited
  simp [within, inTime]

/-- An evaluation that takes longer than its caller waits times out. -/
theorem within_of_lt {e : Evaluation σ} {timer : Timer} {limit wait : Span}
    (waited : timer.wait limit = some wait) (h : wait.nanos < e.latency.nanos) :
    e.within timer (some limit) = (e.abandoned, .error (.timeout limit)) := by
  simp [within, isLate, waited, h]

/-- An evaluation counts, or times out. -/
theorem within_cases (e : Evaluation σ) (timer : Timer) (limit : Option Span) :
    e.within timer limit = (e.finished, e.outcome) ∨
      ∃ span, limit = some span ∧
        e.within timer limit = (e.abandoned, .error (.timeout span)) := by
  cases limit with
  | none => exact .inl rfl
  | some span =>
    unfold within
    dsimp only
    split
    · exact .inr ⟨span, rfl, rfl⟩
    · exact .inl rfl

/-- An evaluation that takes no time counts, whatever the timer does. -/
theorem within_of_instant {e : Evaluation σ} (instant : e.latency.nanos = 0) (timer : Timer)
    (limit : Option Span) : e.within timer limit = (e.finished, e.outcome) := by
  cases limit with
  | none => rfl
  | some limit => exact within_of_le fun _ _ => instant ▸ Nat.zero_le _

end Evaluation

/-! ## Executors -/

/-- How scripts run and lifetimes are set over states `σ`. -/
structure Executor (σ : Type) where
  /-- The evaluation of a script with its keys and arguments. -/
  eval : (script : Script) → (keys args : List String) → σ → Evaluation σ
  expire : (key : String) → (lifetime : Span) → σ → σ × Except LimiterError Unit

/-- The answer that a reply stands for. -/
def decision (reply : Int) : Except LimiterError Bool :=
  if reply = 1 then .ok true
  else if reply = 0 then .ok false
  else .error (.unexpectedReply reply)

/-- The replies 1 and 0 are the only answers. -/
theorem decision_eq_ok_iff {reply : Int} {accepted : Bool} :
    decision reply = .ok accepted ↔ reply = if accepted then 1 else 0 := by
  unfold decision
  split
  · cases accepted <;> simp_all
  · split <;> cases accepted <;> simp_all

/-- What a call finds when it is made: an executor, the time, whether there is a scheduler, which
keeps timers and does the work in the background, and what its timer makes of a limit. Unless
another timer is given, the call comes with a tick. -/
structure Context (σ : Type) where
  executor : Executor σ
  now : Instant
  scheduler : Bool
  timer : Timer := .ticking 0

namespace Context

variable {σ : Type}

/-- The state and the outcome of a script for a caller who sets a limit. Without a scheduler there
is no timer. -/
def eval (ctx : Context σ) (limit : Option Span) (script : Script) (key : String)
    (args : List String) (state : σ) : Except Fault (σ × Except LimiterError Int) :=
  let e := ctx.executor.eval script [key] args state
  if e.needsTimer ctx.timer limit && !ctx.scheduler then .error .noTimer
  else .ok (e.within ctx.timer limit)

/-- Where there is a scheduler, a script ends as its evaluation does within the limit. -/
theorem eval_of_scheduler {ctx : Context σ} (h : ctx.scheduler = true) (limit : Option Span)
    (script : Script) (key : String) (args : List String) (state : σ) :
    ctx.eval limit script key args state =
      .ok ((ctx.executor.eval script [key] args state).within ctx.timer limit) := by
  simp [eval, h]

/-- The state after a key's lifetime is renewed in the background. Nobody waits for the renewal,
and its failure is no one's error. -/
def refresh (ctx : Context σ) (key : String) (lifetime : Span) (state : σ) : σ :=
  if ctx.scheduler then (ctx.executor.expire key lifetime state).1 else state

end Context

namespace Store

/-- A store in memory as an executor at the instant `now`; it computes with numbers `α`. -/
def executor (α : Type) [Arithmetic α] (now : Instant) : Executor Store where
  eval script keys args store :=
    let (store, outcome) := store.eval α now script keys args
    .now store outcome
  expire key lifetime store := store.expire now key lifetime

/-- What a call at `now` finds that is made to a store in memory where there is a scheduler. -/
def context (α : Type) [Arithmetic α] (now : Instant) : Context Store where
  executor := executor α now
  now := now
  scheduler := true

@[simp] theorem now_context (α : Type) [Arithmetic α] (now : Instant) :
    (context α now).now = now := rfl

@[simp] theorem refresh_context (α : Type) [Arithmetic α] (now : Instant) (key : String)
    (lifetime : Span) (store : Store) :
    (context α now).refresh key lifetime store = (store.expire now key lifetime).1 := rfl

/-- A store in memory answers at once, so that no limit of a caller matters. -/
theorem eval_context (α : Type) [Arithmetic α] (now : Instant) (limit : Option Span)
    (script : Script) (key : String) (args : List String) (store : Store) :
    (context α now).eval limit script key args store =
      .ok (store.eval α now script [key] args) := by
  rw [Context.eval_of_scheduler rfl, Evaluation.within_of_instant rfl]
  rfl

end Store

end Throttle
