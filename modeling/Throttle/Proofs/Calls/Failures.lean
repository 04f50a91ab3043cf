import Throttle.Proofs.Rejection.Reached

/-!
# Calls that fail

A limiter itself raises errors of two kinds: it refuses parameters, and it refuses a request for its
fixed window. The other errors come from a store. A call that a limiter refuses leaves everything as
it was, in the limiter and in its store, in every state that calls have led to. There is one
exception. A log starts the state of a key before it looks at the window of a request by key; so a
key that is new stays in use if the request then fails on its fixed window, without a record.

## Main definitions

* `LimiterError.OfWindow`, `LimiterError.IsOwn`: the errors that a limiter itself raises
* `Context.Spares`: an executor does not end scripts with an error
* `Limiter.Attained`: a limiter that calls have led to, over any stores
* `Limiter.Left`: what a failed call leaves of a limiter

## Main results

* `Limiter.Attained.valid`: the parameters of shared windows and logs stay valid over any stores
* `Limiter.left_of_step_error`: **a call that a limiter refuses leaves everything as it was**
-/

namespace Throttle

/-! ## Errors -/

/-- A request fails on its fixed window. -/
inductive LimiterError.OfWindow : LimiterError → Prop where
  | outside (now left right : Instant) : OfWindow (.outsideWindow now left right)
  | missing : OfWindow .missingFixedWindow

/-- A limiter itself raises an error. -/
inductive LimiterError.IsOwn : LimiterError → Prop where
  | config (e : ConfigError) : IsOwn (.config e)
  | window {e : LimiterError} (ofWindow : e.OfWindow) : IsOwn e

/-- Only requests in a fixed window fail on it. -/
theorem AllowOptions.fixed_of_windowBounds {o : AllowOptions} {now : Instant} {trailing : Int}
    {default : Option FixedWindow} {e : LimiterError}
    (failed : o.windowBounds now trailing default = .ok (.error e)) :
    o.fixedWindow = true ∧ e.OfWindow := by
  unfold windowBounds at failed
  split at failed
  · rename_i fixed
    refine ⟨fixed, ?_⟩
    rw [Except.ok.injEq] at failed
    split at failed
    · cases failed
      exact .missing
    · rename_i w _
      unfold FixedWindow.check at failed
      split at failed
      · cases failed
      · cases failed
        exact .outside ..
  · split at failed <;> cases failed

/-- Of all calls only a request by key can be in a fixed window. -/
theorem Call.exists_allow_of_fixed {α : Type} {call : Call α}
    (fixed : call.options.fixedWindow = true) : ∃ key o, call = .allow key o := by
  cases call with
  | allow key o => exact ⟨key, o, rfl⟩
  | _ => cases fixed

/-! ## Requests in process -/

namespace Keyed

variable {P S L α : Type} {scheme : Scheme P S L}
  {decide : Call α → S → Except Fault (S × Except LimiterError Bool)} {k k' : Keyed scheme}
  {call : Call α} {e : LimiterError}

/-- A request by key meets the state of the key. -/
theorem meet_allow (k : Keyed scheme) (key : String) (o : AllowOptions) :
    k.meet (.allow key o : Call α) = .ok (k.put key (k.state key), k.state key) :=
  congrArg Except.ok (k.obtain_eq key)

/-- The use of a key that has a state changes nothing, and another key starts one. -/
theorem put_state_cases (k : Keyed scheme) (key : String) :
    k.put key (k.state key) = k ∨
      k.get? key = none ∧ k.put key (k.state key) = k.put key (scheme.start k.defaults) := by
  cases held : k.get? key with
  | some s => exact .inl (by rw [state, held, Option.getD_some, put_self held])
  | none => exact .inr ⟨rfl, by rw [state, held, Option.getD_none]⟩

/-- A request that fails has not met a state, or fails on it. -/
theorem exists_of_serve_error (served : k.serve decide call = .ok (k', .error e)) :
    k' = k ∨ ∃ k₁ s s', k.meet call = .ok (k₁, s) ∧ decide call s = .ok (s', .error e) ∧
      k' = k₁.put call.key s' := by
  unfold serve at served
  split at served
  · cases served
    exact .inl rfl
  · rename_i k₁ s met
    obtain ⟨⟨s', _⟩, decided, same⟩ := exists_of_map_eq_ok served
    cases same
    exact .inr ⟨k₁, s, s', met, decided, rfl⟩

/-- A request that is always decided has not met a state if it fails. -/
theorem eq_of_serve_error (decides : ∀ s s', decide call s ≠ .ok (s', .error e))
    (served : k.serve decide call = .ok (k', .error e)) : k' = k := by
  obtain same | ⟨_, s, s', -, decided, -⟩ := exists_of_serve_error served
  · exact same
  · exact absurd decided (decides s s')

end Keyed

section Decisions

variable {α : Type} [Arithmetic α] (now : Instant) {e : LimiterError}

theorem TokenBucket.decide_ne_error (n : ℕ) (b b' : TokenBucket α) :
    decide now n b ≠ .ok (b', .error e) := by simp [decide]

theorem LeakyBucket.decide_ne_error (n : ℕ) (b b' : LeakyBucket α) :
    decide now n b ≠ .ok (b', .error e) := by simp [decide]

theorem SlidingWindow.decide_ne_error (w w' : SlidingWindow) :
    decide now w ≠ .ok (w', .error e) := by simp [decide]

end Decisions

/-- A log is left as it is by a request that fails, which is one by key in a fixed window. -/
theorem SlidingLog.left_of_serve_error {α : Type} {call : Call α} {now : Instant}
    {k k' : Keyed SlidingLog.scheme} {e : LimiterError}
    (served : k.serve (fun call => SlidingLog.decide now call.options) call = .ok (k', .error e)) :
    k' = k ∨ e.OfWindow ∧ ∃ key o, call = .allow key o ∧ o.fixedWindow = true ∧
      k.get? key = none ∧ k' = k.put key (start k.defaults) := by
  obtain same | ⟨k₁, l, l', met, decided, rfl⟩ := Keyed.exists_of_serve_error served
  · exact .inl same
  obtain ⟨_, unbounded, same, rfl⟩ | ⟨_, _, -, ⟨-, same, -⟩ | ⟨-, same, -⟩⟩ := allow_eq_ok decided
  · cases same
    obtain ⟨fixed, ofWindow⟩ := AllowOptions.fixed_of_windowBounds unbounded
    obtain ⟨key, o, rfl⟩ := Call.exists_allow_of_fixed fixed
    have used : k₁.put key l' = k.put key (k.state key) := by
      cases (k.meet_allow key o).symm.trans met
      exact Keyed.put_put ..
    obtain same | ⟨absent, started⟩ := k.put_state_cases key
    · exact .inl (used.trans same)
    · exact .inr ⟨ofWindow, key, o, rfl, fixed, absent, used.trans started⟩
  · cases same
  · cases same

/-! ## Requests to a store -/

section Shared

variable {σ : Type} {ctx : Context σ} {state state' : σ} {key : String} {e : LimiterError}

/-- What a caller hears of an evaluation is no error that a limiter itself raises, unless the
evaluation ends with it. -/
theorem LimiterError.IsOwn.outcome_eq (own : e.IsOwn) {ev : Evaluation σ} {timer : Timer}
    {limit : Option Span} (failed : (ev.within timer limit).2.bind decision = .error e) :
    ev.outcome = .error e := by
  obtain counts | ⟨span, -, late⟩ := ev.within_cases timer limit
  · rw [counts] at failed
    cases ended : ev.outcome with
    | error e' =>
      rw [ended] at failed
      cases failed
      rfl
    | ok reply =>
      rw [ended] at failed
      change decision reply = .error e at failed
      unfold decision at failed
      split at failed
      · cases failed
      · split at failed
        · cases failed
        · cases failed
          obtain _ | ⟨ofWindow⟩ := own
          cases ofWindow
  · rw [late] at failed
    cases failed
    obtain _ | ⟨ofWindow⟩ := own
    cases ofWindow

/-- An executor does not end any script for a key with the error `e`. -/
def Context.Spares (ctx : Context σ) (state : σ) (key : String) (e : LimiterError) : Prop :=
  ∀ script args, (ctx.executor.eval script [key] args state).outcome ≠ .error e

/-- What a script is answered is then no error that a limiter itself raises. -/
theorem Context.Spares.bind_ne (spares : ctx.Spares state key e) (own : e.IsOwn)
    {limit : Option Span} {script : Script} {args : List String} {reply : Except LimiterError Int}
    (ran : ctx.eval limit script key args state = .ok (state', reply)) :
    reply.bind decision ≠ .error e := by
  intro failed
  unfold Context.eval at ran
  dsimp only at ran
  split at ran
  · cases ran
  · rw [Except.ok.injEq] at ran
    have answer : ((ctx.executor.eval script [key] args state).within ctx.timer limit).2 = reply :=
      congrArg Prod.snd ran
    rw [← answer] at failed
    exact spares script args (own.outcome_eq failed)

/-- A store in memory ends scripts with errors of its own only. -/
theorem Store.spares {α : Type} [Arithmetic α] {now : Instant} {store : Store} (own : e.IsOwn) :
    (Store.context α now).Spares store key e := by
  intro script args failed
  change (store.eval α now script [key] args).2 = .error e at failed
  have stored : ∃ fault, e = .store fault := by
    unfold Store.eval at failed
    split at failed
    · dsimp only at failed
      split at failed
      · cases failed
      · cases failed
        exact ⟨_, rfl⟩
    · cases failed
      exact ⟨_, rfl⟩
  obtain ⟨fault, rfl⟩ := stored
  obtain _ | ⟨ofWindow⟩ := own
  cases ofWindow

/-- A request to a shared bucket raises no error of its own. -/
theorem SharedLeakyBucket.pour_ne {α : Type} [Arithmetic α] {l : SharedLeakyBucket α}
    {params : LeakyBucket.Config α} {n : ℕ} (spares : ctx.Spares state key e) (own : e.IsOwn) :
    l.pour ctx key params n state ≠ .ok (state', .error e) := by
  intro made
  obtain ⟨⟨_, reply⟩, ran, same⟩ := exists_of_map_eq_ok made
  exact spares.bind_ne own ran (congrArg Prod.snd same)

/-- Nor does one to a shared window with valid parameters. -/
theorem SharedSlidingWindow.request_ne {l l' : SharedSlidingWindow} {params : SlidingWindow.Config}
    (valid : params.validate = .ok ()) (spares : ctx.Spares state key e) (own : e.IsOwn) :
    request ctx l state key params ≠ .ok ((l', state'), .error e) := by
  intro made
  have window : params.window.window? = .ok params.window.nanos :=
    Span.window?_eq_ok_iff.2 ⟨rfl, (SlidingWindow.Config.validate_eq_ok_iff.1 valid).2⟩
  unfold request at made
  rw [window] at made
  dsimp only at made
  split at made
  · cases made
  · split at made
    · cases made
    · rename_i ran
      split at made
      · cases made
      · rw [Except.ok.injEq] at made
        exact spares.bind_ne own ran (congrArg Prod.snd made)

/-- One to a shared log does so if it fails on its fixed window, and then it puts no script to the
store. -/
theorem SharedSlidingLog.eq_of_request_error {l l' : SharedSlidingLog} {params : SlidingLog.Config}
    {o : AllowOptions} (spares : ctx.Spares state key e) (own : e.IsOwn)
    (made : request ctx l state key params o = .ok ((l', state'), .error e)) :
    l' = l ∧ state' = state ∧ o.fixedWindow = true ∧ e.OfWindow := by
  unfold request at made
  split at made
  · cases made
  · rename_i unbounded
    cases made
    exact ⟨rfl, rfl, AllowOptions.fixed_of_windowBounds unbounded⟩
  · dsimp only at made
    split at made
    · cases made
    · rename_i ran
      split at made
      · cases made
      · rw [Except.ok.injEq] at made
        exact absurd (congrArg Prod.snd made) (spares.bind_ne own ran)

/-- A shared log is left as it is by a call that it refuses, unless it is a request by key that
fails on its fixed window. -/
theorem SharedSlidingLog.left_of_serve_error {α : Type} {call : Call α} {l l' : SharedSlidingLog}
    (spares : ctx.Spares state call.key e) (own : e.IsOwn)
    (served : l.serve ctx state call = .ok ((l', state'), .error e)) :
    state' = state ∧ (l' = l ∨ e.OfWindow ∧ ∃ key o, call = .allow key o ∧ o.fixedWindow = true ∧
      l.keyed.get? key = none ∧ l' = { l with keyed := l.keyed.put key l.keyed.defaults }) := by
  unfold serve at served
  split at served
  · cases served
    exact ⟨rfl, .inl rfl⟩
  · rename_i keyed params met
    obtain ⟨rfl, rfl, fixed, ofWindow⟩ := eq_of_request_error spares own served
    obtain ⟨key, o, rfl⟩ := Call.exists_allow_of_fixed fixed
    have used : keyed = l.keyed.put key (l.keyed.state key) := by
      cases (l.keyed.meet_allow key o).symm.trans met
      rfl
    obtain same | ⟨absent, started⟩ := l.keyed.put_state_cases key
    · exact ⟨rfl, .inl (by rw [used, same])⟩
    · exact ⟨rfl, .inr ⟨ofWindow, key, o, rfl, fixed, absent, by rw [used, started]; rfl⟩⟩

end Shared

/-! ## Calls -/

namespace Limiter

variable {α σ : Type} [Arithmetic α]

/-- A limiter that calls have led to, each made in a context of its own. In between the stores may
change in any way. -/
inductive Attained (σ : Type) : Limiter α → Prop where
  | start {l : Limiter α} (new : l.New) : Attained σ l
  | call {l l' : Limiter α} {ctx : Context σ} {state state' : σ} {call : Call α} {outcome : Outcome}
    (attained : Attained σ l) (made : step ctx (l, state) call = .ok ((l', state'), outcome)) :
    Attained σ l'

/-- The parameters of a shared window or log are valid in every state that calls lead to. -/
theorem Attained.valid {l : Limiter α} (attained : Attained σ l) : l.Valid := by
  induction attained with
  | start new => exact new.valid
  | call _ made ih => exact ih.step made

/-- What a call that fails with the error `e` leaves of a limiter: the limiter as it was. If a log
fails a request by key on its fixed window, and the key is new, then the key has an empty log after
it, or the parameters with which the limiter has been made. -/
inductive Left (e : LimiterError) : Call α → Limiter α → Limiter α → Prop where
  | same (call : Call α) (l : Limiter α) : Left e call l l
  | slidingLog {k : Keyed SlidingLog.scheme} {key : String} {o : AllowOptions}
    (ofWindow : e.OfWindow) (fixed : o.fixedWindow = true) (absent : k.get? key = none) :
    Left e (.allow key o) (slidingLog k) (slidingLog (k.put key (.start k.defaults)))
  | sharedSlidingLog {s : SharedSlidingLog} {key : String} {o : AllowOptions}
    (ofWindow : e.OfWindow) (fixed : o.fixedWindow = true) (absent : s.keyed.get? key = none) :
    Left e (.allow key o) (sharedSlidingLog s)
      (sharedSlidingLog { s with keyed := s.keyed.put key s.keyed.defaults })

variable {ctx : Context σ} {l l' : Limiter α} {state state' : σ} {call : Call α} {e : LimiterError}

/-- An outcome that is an error comes from an answer that is one. -/
theorem error_of_map {answer : Except LimiterError Bool} (failed : answer.map some = .error e) :
    answer = .error e := by
  cases answer with
  | error e' => exact congrArg _ (Except.error.inj failed)
  | ok answer => cases failed

/-- **A call that a limiter refuses leaves everything as it was**, in every state that calls have
led to: a setter or a request that fails with an error of the limiter's own, which an executor that
the limiter uses does not report. Only a log may keep a new key, if a request by key fails on its
fixed window. -/
theorem left_of_step_error (attained : Attained σ l)
    (made : step ctx (l, state) call = .ok ((l', state'), .error e)) (own : e.IsOwn)
    (spares : l.kind.2 = .shared → ctx.Spares state call.key e) :
    state' = state ∧ Left e call l l' := by
  have stepped := stepped_of_step made
  generalize failed : (.error e : Outcome) = outcome at stepped
  cases stepped with
  | set | untaken => cases failed
  | refused => exact ⟨rfl, .same call l⟩
  | tokenBucket served =>
    cases error_of_map failed.symm
    obtain rfl := Keyed.eq_of_serve_error (TokenBucket.decide_ne_error ctx.now call.units) served
    exact ⟨rfl, .same ..⟩
  | leakyBucket served =>
    cases error_of_map failed.symm
    obtain rfl := Keyed.eq_of_serve_error (LeakyBucket.decide_ne_error ctx.now call.units) served
    exact ⟨rfl, .same ..⟩
  | slidingWindow served =>
    cases error_of_map failed.symm
    obtain rfl := Keyed.eq_of_serve_error (SlidingWindow.decide_ne_error ctx.now) served
    exact ⟨rfl, .same ..⟩
  | slidingLog served =>
    cases error_of_map failed.symm
    obtain rfl | ⟨ofWindow, key, o, rfl, fixed, absent, rfl⟩ :=
      SlidingLog.left_of_serve_error served
    · exact ⟨rfl, .same ..⟩
    · exact ⟨rfl, .slidingLog ofWindow fixed absent⟩
  | sharedLeakyBucket asks served =>
    cases error_of_map failed.symm
    unfold SharedLeakyBucket.serve at served
    split at served
    · cases served
      exact ⟨rfl, .same ..⟩
    · obtain ⟨⟨_, answer⟩, poured, same⟩ := exists_of_map_eq_ok served
      cases same
      exact absurd poured (SharedLeakyBucket.pour_ne (spares rfl) own)
  | sharedSlidingWindow asks served =>
    cases error_of_map failed.symm
    unfold SharedSlidingWindow.serve at served
    split at served
    · cases served
      exact ⟨rfl, .same ..⟩
    · rename_i met
      have valid := (SharedSlidingWindow.valid_of_meet attained.valid met).2
      exact absurd served (SharedSlidingWindow.request_ne valid (spares rfl) own)
  | sharedSlidingLog asks served =>
    cases error_of_map failed.symm
    obtain ⟨rfl, rfl | ⟨ofWindow, key, o, rfl, fixed, absent, rfl⟩⟩ :=
      SharedSlidingLog.left_of_serve_error (spares rfl) own served
    · exact ⟨rfl, .same ..⟩
    · exact ⟨rfl, .sharedSlidingLog ofWindow fixed absent⟩

/-- A new shared log for one unit in a minute, which knows no fixed window. -/
def trailingLog : Limiter ℚ :=
  sharedSlidingLog ⟨⟨⟨1, .ofSeconds 60, none⟩, by decide, ∅⟩, .ofOrigin 0, none, defaultGrace⟩

/-- A request in a fixed window fails, and its key stays in use. The store is as it was. -/
theorem left_of_step_error_trailingLog :
    ∃ l' store', step (Store.context ℚ ⟨0⟩) (trailingLog, ∅) (.allow "k" { fixedWindow := true }) =
        .ok ((l', store'), .error .missingFixedWindow) ∧ Attained Store trailingLog ∧
      LimiterError.missingFixedWindow.IsOwn ∧
      (Store.context ℚ ⟨0⟩).Spares ∅ "k" .missingFixedWindow ∧ store' = ∅ ∧
      Left .missingFixedWindow (.allow "k" { fixedWindow := true }) trailingLog l' ∧
        l'.size = 1 := by
  have created : SharedSlidingLog.create? ⟨1, .ofSeconds 60, none⟩ 0 none defaultGrace =
      .ok ⟨⟨⟨1, .ofSeconds 60, none⟩, by decide, ∅⟩, .ofOrigin 0, none, defaultGrace⟩ := rfl
  have attained : Attained Store trailingLog := .start (.sharedSlidingLog created)
  have own : LimiterError.missingFixedWindow.IsOwn := .window .missing
  have made : step (Store.context ℚ ⟨0⟩) (trailingLog, ∅) (.allow "k" { fixedWindow := true }) =
      .ok ((_, ∅), .error .missingFixedWindow) := rfl
  obtain ⟨same, left⟩ := left_of_step_error attained made own fun _ => Store.spares own
  exact ⟨_, _, made, attained, own, Store.spares own, same, left, rfl⟩

end Limiter

end Throttle
