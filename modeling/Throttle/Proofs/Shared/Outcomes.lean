import Throttle.Proofs.Arithmetic.Exact
import Throttle.Proofs.Isolation.Limiter
import Throttle.Store.Rehearsal

/-!
# What a caller is told of a script

A shared limiter puts one script to its store for a request and tells its caller what came of it:
the answer that the reply stands for, the executor's own error, or that the script took too long.
This is so for every executor, whatever it replies and however long it takes. The time is taken by
the timer of the runtime, of which it is known only that it ends no wait too early, and none a
millisecond too late. A request that is refused for its parameters or for the bounds of its window
reaches no store.

The commands of a limiter are read off an executor that records them.

## Main definitions

* `Evaluation.InTime`, `Evaluation.Late`: an evaluation takes no longer than the limit that its
  caller sets, or a millisecond longer and more
* `Evaluation.Reports`: an outcome says what came of an evaluation
* `Limiter.scriptFor?`: the script that decides a call
* `Limiter.vet`: the refusal of a call before its script
* `Limiter.Representable`: a call computes with instants and spans that can be represented

## Main results

* `Evaluation.reports_within`: what a caller hears of an evaluation is what came of it
* `Limiter.step_reports`: **a request puts one script to the store and reports what came of it**
-/

namespace Throttle

namespace Evaluation

variable {σ : Type} {e : Evaluation σ} {timer : Timer} {limit : Option Span}

/-- An evaluation is in time if it takes no longer than the limit of its caller. No evaluation is
late for a caller who sets no limit, or one for which no timer can be set. -/
def InTime (e : Evaluation σ) (timer : Timer) (limit : Option Span) : Prop :=
  ∀ span ∈ limit, (timer.wait span).isSome → e.latency.nanos ≤ span.nanos

/-- An evaluation is late if it takes a millisecond longer than the limit of its caller, or more. -/
def Late (e : Evaluation σ) (timer : Timer) (limit : Span) : Prop :=
  (timer.wait limit).isSome ∧ limit.nanos + Timer.resolution.nanos ≤ e.latency.nanos

/-- What is in time counts. -/
theorem within_of_inTime (sound : timer.Sound) (h : e.InTime timer limit) :
    e.within timer limit = (e.finished, e.outcome) := by
  cases limit with
  | none => rfl
  | some span =>
    refine within_of_le fun wait waited => ?_
    exact (h span rfl (Option.isSome_of_mem waited)).trans (sound.no_sooner waited)

/-- What is late times out. -/
theorem within_of_late (sound : timer.Sound) {span : Span} (h : e.Late timer span) :
    e.within timer (some span) = (e.abandoned, .error (.timeout span)) := by
  obtain ⟨wait, waited⟩ := Option.isSome_iff_exists.1 h.1
  exact within_of_lt waited (Nat.lt_of_lt_of_le (sound.no_later waited) h.2)

/-- An outcome says what came of an evaluation for a caller who sets a limit. If the evaluation is
neither in time nor late then it may count, and it may time out. -/
structure Reports (e : Evaluation σ) (timer : Timer) (limit : Option Span)
    (outcome : Except LimiterError Bool) : Prop where
  accepts : e.InTime timer limit → (outcome = .ok true ↔ e.outcome = .ok 1)
  rejects : e.InTime timer limit → (outcome = .ok false ↔ e.outcome = .ok 0)
  unexpected : ∀ {reply : Int}, e.InTime timer limit → e.outcome = .ok reply → reply ≠ 1 →
    reply ≠ 0 → outcome = .error (.unexpectedReply reply)
  fails : ∀ {error : LimiterError}, e.InTime timer limit → e.outcome = .error error →
    outcome = .error error
  times_out : ∀ {span : Span}, limit = some span → e.Late timer span →
    outcome = .error (.timeout span)
  counts_or_times_out : outcome = e.outcome.bind decision ∨
    ∃ span, limit = some span ∧ outcome = .error (.timeout span)

/-- What a caller hears of an evaluation is what came of it. -/
theorem reports_within (e : Evaluation σ) (sound : timer.Sound) (limit : Option Span) :
    e.Reports timer limit ((e.within timer limit).2.bind decision) := by
  have counts (inTime : e.InTime timer limit) :
      (e.within timer limit).2.bind decision = e.outcome.bind decision := by
    rw [within_of_inTime sound inTime]
  have answer {accepted : Bool} : e.outcome.bind decision = .ok accepted ↔
      e.outcome = .ok (if accepted then 1 else 0) := by
    cases e.outcome with
    | error error => simp [Except.bind]
    | ok reply => simpa [Except.bind] using decision_eq_ok_iff
  refine ⟨fun inTime => ?_, fun inTime => ?_, fun inTime replied one zero => ?_,
    fun inTime failed => ?_, fun limited late => ?_, ?_⟩
  · rw [counts inTime]
    exact answer
  · rw [counts inTime]
    exact answer
  · rw [counts inTime, replied]
    simp [Except.bind, decision, one, zero]
  · rw [counts inTime, failed]
    rfl
  · rw [limited, within_of_late sound late]
    rfl
  · obtain counts | ⟨span, limited, late⟩ := e.within_cases timer limit
    · exact .inl (by rw [counts])
    · exact .inr ⟨span, limited, by rw [late]; rfl⟩

end Evaluation

/-- A request has bounds, or is told why not, unless a trailing window begins before every instant
that a clock can read. -/
theorem AllowOptions.exists_windowBounds {o : AllowOptions} {now : Instant} {trailing : Int}
    (default : Option FixedWindow)
    (reaches : o.fixedWindow = false → (now.shift? (-trailing)).isSome) :
    ∃ bounds, o.windowBounds now trailing default = .ok bounds := by
  unfold windowBounds
  cases mode : o.fixedWindow with
  | true => exact ⟨_, rfl⟩
  | false =>
    obtain ⟨left, moved⟩ := Option.isSome_iff_exists.1 (reaches mode)
    exact ⟨_, by rw [moved]; rfl⟩

/-! ## Recorded commands -/

section Recorded

variable {σ : Type} (ex : Executor σ) (timer : Timer) (now : Instant)

/-- A call at `now`, made where there is a scheduler with the given timer, to an executor that
records its commands. -/
def Executor.recording : Context (Recorded σ) := ⟨ex.recorded, now, true, timer⟩

/-- One script for a key was put to the store, the commands `renewal` followed it, and the outcome
says what came of the script. -/
def Executor.Asked (limit : Option Span) (script : Script) (key : String) (r r' : Recorded σ)
    (renewal : List Command) (outcome : Except LimiterError Bool) : Prop :=
  ∃ args, r'.commands = r.commands ++ .eval script [key] args :: renewal ∧
    (ex.eval script [key] args r.state).Reports timer limit outcome

/-- Recording changes nothing that a caller who sets a limit hears or leaves behind. -/
theorem Executor.within_recorded (limit : Option Span) (script : Script) (keys args : List String)
    (r : Recorded σ) :
    (ex.recorded.eval script keys args r).within timer limit =
      let ended := (ex.eval script keys args r.state).within timer limit
      (⟨ended.1, r.commands ++ [.eval script keys args]⟩, ended.2) := by
  cases limit with
  | none => rfl
  | some span =>
    set e := ex.eval script keys args r.state
    change (if e.isLate timer span then _ else _) = _
    unfold Evaluation.within
    dsimp only
    split <;> rfl

variable {timer} (sound : timer.Sound)

include sound in
/-- A script is recorded, whatever comes of it. -/
theorem Executor.eval_recording (limit : Option Span) (script : Script) (key : String)
    (args : List String) (r : Recorded σ) :
    ∃ r' reply, (ex.recording timer now).eval limit script key args r = .ok (r', reply) ∧
      ex.Asked timer limit script key r r' [] (reply.bind decision) :=
  ⟨_, _, (Context.eval_of_scheduler rfl ..).trans
      (congrArg Except.ok (ex.within_recorded timer limit script [key] args r)),
    args, rfl, Evaluation.reports_within _ sound _⟩

/-- The renewal of a key's lifetime is recorded. -/
theorem Executor.Asked.refresh {ex : Executor σ} {limit : Option Span}
    {script : Script} {key : String} {r r' : Recorded σ} {outcome : Except LimiterError Bool}
    (asked : ex.Asked timer limit script key r r' [] outcome) (now : Instant) (lifetime : Span) :
    ex.Asked timer limit script key r ((ex.recording timer now).refresh key lifetime r')
      [.expire key lifetime] outcome := by
  obtain ⟨args, commands, reports⟩ := asked
  refine ⟨args, ?_, reports⟩
  change r'.commands ++ [.expire key lifetime] = _
  rw [commands, List.append_assoc, List.singleton_append]

end Recorded

/-! ## Requests with the parameters of their key -/

section Requests

variable {α : Type} [Arithmetic α] {σ : Type} (ex : Executor σ) (now : Instant) {timer : Timer}
  (sound : timer.Sound)

include sound

namespace SharedLeakyBucket

/-- A request of a bucket puts one script to the store. -/
theorem exists_pour_recording (l : SharedLeakyBucket α) (key : String)
    (params : LeakyBucket.Config α) (n : Nat) (r : Recorded σ) :
    ∃ r' outcome, l.pour (ex.recording timer now) key params n r = .ok (r', outcome) ∧
      ex.Asked timer l.timeout .leakyBucket key r r' [] outcome := by
  obtain ⟨r', reply, ran, asked⟩ :=
    ex.eval_recording now sound l.timeout .leakyBucket key (arguments params now n) r
  refine ⟨r', _, ?_, asked⟩
  rw [pour, show (ex.recording timer now).now = now from rfl, ran]
  rfl

end SharedLeakyBucket

namespace SharedSlidingWindow

/-- A request of a window puts one script to the store, renews the lifetime of its key and uses up
one name. -/
theorem exists_request_recording (l : SharedSlidingWindow) (key : String)
    {params : SlidingWindow.Config} {length : Int} (window : params.window.window? = .ok length)
    (reaches : (now.shift? (-params.window.nanos)).isSome)
    (lasts : (params.window.plus? l.grace).isSome) (r : Recorded σ) :
    ∃ r' lifetime outcome, request (ex.recording timer now) l r key params =
        .ok (({ l with members := (l.members.next now.micros).1 }, r'), outcome) ∧
      ex.Asked timer l.timeout .slidingWindow key r r' [.expire key lifetime] outcome := by
  obtain ⟨boundary, moved⟩ := Option.isSome_iff_exists.1 reaches
  obtain ⟨lifetime, covers⟩ := Option.isSome_iff_exists.1 lasts
  obtain ⟨r', reply, ran, asked⟩ := ex.eval_recording now sound l.timeout .slidingWindow key
    (arguments boundary now params.limit (l.members.next now.micros).2) r
  refine ⟨_, lifetime, _, ?_, asked.refresh now lifetime⟩
  rw [← (Span.window?_eq_ok_iff.1 window).1] at moved
  simp only [request, window, show (ex.recording timer now).now = now from rfl, moved, ran, covers]

end SharedSlidingWindow

namespace SharedSlidingLog

/-- A request of a log whose window has bounds puts one script to the store, renews the lifetime of
its key and uses up one name. -/
theorem exists_request_recording (l : SharedSlidingLog) (key : String) {params : SlidingLog.Config}
    {o : AllowOptions} {left right : Instant}
    (resolved : o.windowBounds now params.window.nanos params.fixedWindow = .ok (.ok (left, right)))
    (lasts : ((countedFor o params.window now right).plus? l.grace).isSome) (r : Recorded σ) :
    ∃ r' lifetime outcome, request (ex.recording timer now) l r key params o =
        .ok (({ l with members := (l.members.next now.micros).1 }, r'), outcome) ∧
      ex.Asked timer l.timeout .slidingLog key r r' [.expire key lifetime] outcome := by
  obtain ⟨lifetime, covers⟩ := Option.isSome_iff_exists.1 lasts
  obtain ⟨r', reply, ran, asked⟩ := ex.eval_recording now sound l.timeout .slidingLog key
    (arguments left right now params.limit o.weight (l.members.next now.micros).2) r
  refine ⟨_, lifetime, _, ?_, asked.refresh now lifetime⟩
  simp only [request, show (ex.recording timer now).now = now from rfl, resolved, ran, covers]

end SharedSlidingLog

end Requests

/-! ## Calls -/

/-- The options of a request by key, or of one by resource. -/
def Call.options {α : Type} : Call α → AllowOptions
  | .allow _ o => o
  | .check _ count => .ofCount count
  | _ => {}

/-- The units of a request. -/
def Call.units {α : Type} : Call α → Nat
  | .take _ n => n
  | call => call.options.weight

/-- The states after a call about a key, and the state that it meets there: a check may start it
from its resource, and is refused if the resource's parameters are not valid. -/
def Keyed.meet {P S L α : Type} {scheme : Scheme P S L} (k : Keyed scheme) :
    Call α → Except LimiterError (Keyed scheme × S)
  | .check r _ => k.obtainFor r
  | call => .ok (k.obtain call.key)

section Served

variable {α β : Type} [Arithmetic α] {σ : Type} (ctx : Context σ)

/-- A request of a shared bucket in the state that its call meets. -/
def SharedLeakyBucket.serve (l : SharedLeakyBucket α) (state : σ) (call : Call α) :
    Except Fault ((SharedLeakyBucket α × σ) × Except LimiterError Bool) :=
  match l.keyed.meet call with
  | .error e => .ok ((l, state), .error e)
  | .ok (keyed, params) =>
    (l.pour ctx call.key params call.units state).map fun (state, outcome) =>
      (({ l with keyed := keyed }, state), outcome)

/-- The states and the parameters with which a shared window meets a call: those of the key, or the
call's own, which must be valid. -/
def SharedSlidingWindow.meet (l : SharedSlidingWindow) :
    Call β → Except LimiterError (Keyed SlidingWindow.sharedScheme × SlidingWindow.Config)
  | .shouldAllow _ window limit =>
    (SlidingWindow.Config.validate ⟨limit, window⟩).map fun _ => (l.keyed, ⟨limit, window⟩)
  | call => l.keyed.meet call

/-- A request of a shared window with the parameters that its call meets. -/
def SharedSlidingWindow.serve (l : SharedSlidingWindow) (state : σ) (call : Call β) :
    Except Fault ((SharedSlidingWindow × σ) × Except LimiterError Bool) :=
  match l.meet call with
  | .error e => .ok ((l, state), .error e)
  | .ok (keyed, params) => request ctx { l with keyed := keyed } state call.key params

/-- A request of a shared log with the parameters that its call meets. -/
def SharedSlidingLog.serve (l : SharedSlidingLog) (state : σ) (call : Call β) :
    Except Fault ((SharedSlidingLog × σ) × Except LimiterError Bool) :=
  match l.keyed.meet call with
  | .error e => .ok ((l, state), .error e)
  | .ok (keyed, params) =>
    request ctx { l with keyed := keyed } state call.key params call.options

end Served

namespace Limiter

variable {α : Type} [Arithmetic α] {σ : Type}

/-- The script that decides a call; only the requests of shared limiters have one. -/
def scriptFor? : Limiter α → Call α → Option Script
  | sharedLeakyBucket _, .allow _ _ | sharedLeakyBucket _, .check _ _
  | sharedLeakyBucket _, .take _ _ => some .leakyBucket
  | sharedSlidingWindow _, .allow _ _ | sharedSlidingWindow _, .check _ _
  | sharedSlidingWindow _, .shouldAllow _ _ _ => some .slidingWindow
  | sharedSlidingLog _, .allow _ _ | sharedSlidingLog _, .check _ _ => some .slidingLog
  | _, _ => none

/-- The limit that a shared limiter sets on its scripts. -/
def timeout? : Limiter α → Option Span
  | sharedLeakyBucket l => l.timeout
  | sharedSlidingWindow l => l.timeout
  | sharedSlidingLog l => l.timeout
  | _ => none

/-- The commands that follow the script of a key. A bucket's script renews the lifetime itself. -/
def renewal : Limiter α → String → Span → List Command
  | sharedLeakyBucket _, _, _ => []
  | _, key, lifetime => [.expire key lifetime]

/-- The refusal of a call before its script: the parameters of a resource, or those that a call
brings, are not valid, or the window of a request has no bounds. -/
def vet (now : Instant) : Limiter α → Call α → Except LimiterError Unit
  | sharedLeakyBucket l, call => (l.keyed.meet call).map fun _ => ()
  | sharedSlidingWindow l, call => (l.meet call).bind fun (_, params) => params.window.checkWindow
  | sharedSlidingLog l, call => (l.keyed.meet call).bind fun (_, params) =>
    match call.options.windowBounds now params.window.nanos params.fixedWindow with
    | .ok bounds => bounds.map fun _ => ()
    | .error _ => .ok ()
  | _, _ => .ok ()

/-- A call computes with instants and spans that can be represented: where the trailing window
begins, and how long the key is kept, which is for the time in which the request can be counted and
for the grace. -/
def Representable (now : Instant) : Limiter α → Call α → Prop
  | sharedSlidingWindow l, call => ∀ keyed params, l.meet call = .ok (keyed, params) →
    params.window.checkWindow = .ok () →
      (now.shift? (-params.window.nanos)).isSome ∧ (params.window.plus? l.grace).isSome
  | sharedSlidingLog l, call => ∀ keyed params, l.keyed.meet call = .ok (keyed, params) →
    (call.options.fixedWindow = false → (now.shift? (-params.window.nanos)).isSome) ∧
      ∀ left right,
        call.options.windowBounds now params.window.nanos params.fixedWindow =
          .ok (.ok (left, right)) →
        ((SharedSlidingLog.countedFor call.options params.window now right).plus? l.grace).isSome
  | _, _ => True

/-- What a shared limiter does at a request: a refused one leaves everything as it is, and another
one puts its script to the store. -/
structure Reported (ex : Executor σ) (timer : Timer) (now : Instant) (l l' : Limiter α)
    (r r' : Recorded σ) (call : Call α) (script : Script) (outcome : Except LimiterError Bool) :
    Prop where
  refused : ∀ {e}, l.vet now call = .error e →
    outcome = .error e ∧ r' = r ∧ l'.members? = l.members?
  asked : l.vet now call = .ok () →
    (∃ lifetime,
      ex.Asked timer l.timeout? script call.key r r' (l.renewal call.key lifetime) outcome) ∧
      l'.members? = l.members?.map fun m => (m.next now.micros).1

/-! ### The requests of each limiter -/

section Served

variable (ctx : Context σ) (state : σ) {call : Call α} {script : Script}

/-- A call is answered as the request that it makes of one of the limiters. -/
theorem answered_map {S : Type} (made : Except Fault ((S × σ) × Except LimiterError Bool))
    (limiter : S → Limiter α) :
    answered (made.map fun ((s, state), outcome) => ((limiter s, state), outcome)) =
      made.map fun ((s, state), outcome) => ((limiter s, state), outcome.map some) := by
  cases made <;> rfl

/-- A shared bucket serves its requests. -/
theorem step_sharedLeakyBucket {l : SharedLeakyBucket α}
    (asks : (sharedLeakyBucket l).scriptFor? call = some script) :
    script = .leakyBucket ∧ step ctx (sharedLeakyBucket l, state) call =
      (l.serve ctx state call).map fun ((l, state), outcome) =>
        ((sharedLeakyBucket l, state), outcome.map some) := by
  cases call with
  | allow key o => cases asks; exact ⟨rfl, answered_map ..⟩
  | take key n => cases asks; exact ⟨rfl, answered_map ..⟩
  | check r count => cases asks; exact ⟨rfl, answered_map ..⟩
  | _ => cases asks

/-- A shared window serves its requests. -/
theorem step_sharedSlidingWindow {l : SharedSlidingWindow}
    (asks : (sharedSlidingWindow l : Limiter α).scriptFor? call = some script) :
    script = .slidingWindow ∧ step ctx (sharedSlidingWindow l, state) call =
      (l.serve ctx state call).map fun ((l, state), outcome) =>
        ((sharedSlidingWindow l, state), outcome.map some) := by
  cases call with
  | allow key o => cases asks; exact ⟨rfl, answered_map ..⟩
  | check r count => cases asks; exact ⟨rfl, answered_map ..⟩
  | shouldAllow key window limit =>
    cases asks
    refine ⟨rfl, (answered_map ..).trans ?_⟩
    simp only [SharedSlidingWindow.shouldAllow, SharedSlidingWindow.serve, SharedSlidingWindow.meet]
    cases SlidingWindow.Config.validate ⟨limit, window⟩ <;> rfl
  | _ => cases asks

/-- A shared log serves its requests. -/
theorem step_sharedSlidingLog {l : SharedSlidingLog}
    (asks : (sharedSlidingLog l : Limiter α).scriptFor? call = some script) :
    script = .slidingLog ∧ step ctx (sharedSlidingLog l, state) call =
      (l.serve ctx state call).map fun ((l, state), outcome) =>
        ((sharedSlidingLog l, state), outcome.map some) := by
  cases call with
  | allow key o => cases asks; exact ⟨rfl, answered_map ..⟩
  | check r count => cases asks; exact ⟨rfl, answered_map ..⟩
  | _ => cases asks

end Served

/-! ### Every request -/

section Reports

variable {ex : Executor σ} {timer : Timer} {now : Instant} {call : Call α} {script : Script}

theorem Reported.of_refused {l l' : Limiter α} {r : Recorded σ} {e : LimiterError}
    (vetted : l.vet now call = .error e) (members : l'.members? = l.members?) :
    Reported ex timer now l l' r r call script (.error e) where
  refused again := ⟨congrArg _ (Except.error.inj (vetted.symm.trans again)), rfl, members⟩
  asked passed := nomatch vetted.symm.trans passed

theorem Reported.of_asked {l l' : Limiter α} {r r' : Recorded σ}
    {outcome : Except LimiterError Bool} (lifetime : Span) (vetted : l.vet now call = .ok ())
    (asked : ex.Asked timer l.timeout? script call.key r r' (l.renewal call.key lifetime) outcome)
    (members : l'.members? = l.members?.map fun m => (m.next now.micros).1) :
    Reported ex timer now l l' r r' call script outcome where
  refused refused := nomatch vetted.symm.trans refused
  asked _ := ⟨⟨lifetime, asked⟩, members⟩

variable (ex) (now) (call) (sound : timer.Sound) (r : Recorded σ)

include sound

/-- What a shared bucket does at a request. -/
theorem serve_leakyBucket_reports (l : SharedLeakyBucket α) :
    ∃ l' r' outcome, l.serve (ex.recording timer now) r call = .ok ((l', r'), outcome) ∧
      Reported ex timer now (sharedLeakyBucket l) (sharedLeakyBucket l') r r' call .leakyBucket
        outcome := by
  cases met : l.keyed.meet call with
  | error e =>
    exact ⟨l, r, .error e, by simp only [SharedLeakyBucket.serve, met],
      .of_refused (by simp only [vet, met, Except.map]) rfl⟩
  | ok found =>
    obtain ⟨keyed, params⟩ := found
    obtain ⟨r', outcome, ran, asked⟩ :=
      l.exists_pour_recording ex now sound call.key params call.units r
    refine ⟨{ l with keyed := keyed }, r', outcome, ?_,
      .of_asked ⟨0⟩ (by simp only [vet, met, Except.map]) asked rfl⟩
    simp only [SharedLeakyBucket.serve, met, ran, Except.map]

/-- What a shared window does at a request. -/
theorem serve_slidingWindow_reports {l : SharedSlidingWindow}
    (representable : (sharedSlidingWindow l).Representable now call) :
    ∃ l' r' outcome, l.serve (ex.recording timer now) r call = .ok ((l', r'), outcome) ∧
      Reported ex timer now (sharedSlidingWindow l) (sharedSlidingWindow l') r r' call
        .slidingWindow outcome := by
  cases met : l.meet call with
  | error e =>
    exact ⟨l, r, .error e, by simp only [SharedSlidingWindow.serve, met],
      .of_refused (by simp only [vet, met, Except.bind]) rfl⟩
  | ok found =>
    obtain ⟨keyed, params⟩ := found
    have vetted : (sharedSlidingWindow l).vet now call = params.window.checkWindow := by
      simp only [vet, met, Except.bind]
    cases window : params.window.window? with
    | error e =>
      refine ⟨{ l with keyed := keyed }, r, .error e, ?_, .of_refused ?_ rfl⟩
      · simp only [SharedSlidingWindow.serve, met, SharedSlidingWindow.request, window]
      · rw [vetted, Span.checkWindow, window, Except.map]
    | ok length =>
      have passes : params.window.checkWindow = .ok () := by
        rw [Span.checkWindow, window, Except.map]
      obtain ⟨reaches, lasts⟩ := representable keyed params met passes
      obtain ⟨r', lifetime, outcome, ran, asked⟩ :=
        SharedSlidingWindow.exists_request_recording ex now sound { l with keyed := keyed } call.key
          window reaches lasts r
      refine ⟨{ l with keyed := keyed, members := (l.members.next now.micros).1 }, r', outcome, ?_,
        .of_asked lifetime (vetted.trans passes) asked rfl⟩
      simp only [SharedSlidingWindow.serve, met, ran]

/-- What a shared log does at a request. -/
theorem serve_slidingLog_reports {l : SharedSlidingLog}
    (representable : (sharedSlidingLog l).Representable now call) :
    ∃ l' r' outcome, l.serve (ex.recording timer now) r call = .ok ((l', r'), outcome) ∧
      Reported ex timer now (sharedSlidingLog l) (sharedSlidingLog l') r r' call .slidingLog
        outcome := by
  cases met : l.keyed.meet call with
  | error e =>
    exact ⟨l, r, .error e, by simp only [SharedSlidingLog.serve, met],
      .of_refused (by simp only [vet, met, Except.bind]) rfl⟩
  | ok found =>
    obtain ⟨keyed, params⟩ := found
    obtain ⟨reaches, lasts⟩ := representable keyed params met
    obtain ⟨bounds, resolved⟩ := AllowOptions.exists_windowBounds params.fixedWindow reaches
    cases bounds with
    | error e =>
      refine ⟨{ l with keyed := keyed }, r, .error e, ?_, .of_refused ?_ rfl⟩
      · simp only [SharedSlidingLog.serve, met, SharedSlidingLog.request,
          show (ex.recording timer now).now = now from rfl, resolved]
      · simp only [vet, met, Except.bind, resolved, Except.map]
    | ok bounds =>
      obtain ⟨left, right⟩ := bounds
      obtain ⟨r', lifetime, outcome, ran, asked⟩ :=
        SharedSlidingLog.exists_request_recording ex now sound { l with keyed := keyed } call.key
          resolved (lasts left right resolved) r
      refine ⟨{ l with keyed := keyed, members := (l.members.next now.micros).1 }, r', outcome, ?_,
        .of_asked lifetime ?_ asked rfl⟩
      · simp only [SharedSlidingLog.serve, met, ran]
      · simp only [vet, met, Except.bind, resolved, Except.map]

/-- **A request puts one script to the store and reports what came of it.** It always has an
outcome; an entry that carries an error does not allow; and a request that is refused for its
parameters or for its window's bounds sends no command and uses up no name. -/
theorem step_reports {l : Limiter α} (asks : l.scriptFor? call = some script)
    (representable : l.Representable now call) :
    ∃ l' r' outcome, step (ex.recording timer now) (l, r) call = .ok ((l', r'), outcome.map some) ∧
      Reported ex timer now l l' r r' call script outcome ∧
      ((Entry.ofOutcome outcome).error.isSome → (Entry.ofOutcome outcome).allowed = false) := by
  have entries : ∀ outcome : Except LimiterError Bool,
      (Entry.ofOutcome outcome).error.isSome → (Entry.ofOutcome outcome).allowed = false
    | .ok _, carries => nomatch carries
    | .error _, _ => rfl
  cases l with
  | sharedLeakyBucket l =>
    obtain ⟨rfl, made⟩ := step_sharedLeakyBucket (ex.recording timer now) r asks
    obtain ⟨l', r', outcome, served, reported⟩ := serve_leakyBucket_reports ex now call sound r l
    exact ⟨_, r', outcome, by rw [made, served]; rfl, reported, entries outcome⟩
  | sharedSlidingWindow l =>
    obtain ⟨rfl, made⟩ := step_sharedSlidingWindow (ex.recording timer now) r asks
    obtain ⟨l', r', outcome, served, reported⟩ :=
      serve_slidingWindow_reports ex now call sound r representable
    exact ⟨_, r', outcome, by rw [made, served]; rfl, reported, entries outcome⟩
  | sharedSlidingLog l =>
    obtain ⟨rfl, made⟩ := step_sharedSlidingLog (ex.recording timer now) r asks
    obtain ⟨l', r', outcome, served, reported⟩ :=
      serve_slidingLog_reports ex now call sound r representable
    exact ⟨_, r', outcome, by rw [made, served]; rfl, reported, entries outcome⟩
  | _ => cases asks

end Reports

/-! ### Between the limit and the next tick -/

/-- A new shared window of ten seconds for one request, which sets a limit on its scripts. -/
def guarded (α : Type) [Arithmetic α] (timeout : Span) : Limiter α :=
  sharedSlidingWindow
    ⟨⟨⟨1, .ofSeconds 10⟩, rfl, ∅⟩, .ofOrigin 0, some timeout, defaultGrace⟩

/-- An executor without a state that replies always the same after the same time. -/
def steady (latency : Span) (reply : Int) : Executor Unit where
  eval _ _ _ state := ⟨latency, .ok reply, state, state⟩
  expire _ _ state := (state, .ok ())

/-- A script that takes a millisecond counts for a caller who sets a limit of half of it, if the
call comes with a tick. It times out if the call comes a little later. -/
theorem step_accepts_after_limit :
    (⟨500000⟩ : Span).nanos < (Span.ofMillis 1).nanos ∧
      (∃ l' r', step ((steady (.ofMillis 1) 1).recording (.ticking 0) ⟨1700000000000000000⟩)
        (guarded ℚ ⟨500000⟩, ⟨(), []⟩) (.allow "k" {}) = .ok ((l', r'), .ok (some true))) ∧
      ∃ l' r', step ((steady (.ofMillis 1) 1).recording (.ticking 300000) ⟨1700000000000300000⟩)
        (guarded ℚ ⟨500000⟩, ⟨(), []⟩) (.allow "k" {}) =
          .ok ((l', r'), .error (.timeout ⟨500000⟩)) :=
  ⟨by decide, ⟨_, _, rfl⟩, _, _, rfl⟩

/-- A script that takes two milliseconds is late for a caller who sets a limit of one. -/
theorem step_reports_timeout :
    ∃ l' r', step ((steady (.ofMillis 2) 1).recording (.ticking 300000) ⟨1700000000000300000⟩)
        (guarded ℚ (.ofMillis 1), ⟨(), []⟩) (.allow "k" {}) =
      .ok ((l', r'), .error (.timeout (.ofMillis 1))) := by
  have representable :
      (guarded ℚ (.ofMillis 1)).Representable ⟨1700000000000300000⟩ (.allow "k" {}) := by
    rintro keyed params met -
    cases met
    exact ⟨rfl, rfl⟩
  obtain ⟨l', r', outcome, made, reported, -⟩ :=
    step_reports (steady (.ofMillis 2) 1) _ (.allow "k" {}) (Timer.sound_ticking 300000) ⟨(), []⟩
      rfl representable
  obtain ⟨⟨lifetime, args, -, reports⟩, -⟩ := reported.asked rfl
  rw [reports.times_out rfl ⟨rfl, Nat.le_refl 2000000⟩] at made
  exact ⟨l', r', made⟩

end Limiter

end Throttle
