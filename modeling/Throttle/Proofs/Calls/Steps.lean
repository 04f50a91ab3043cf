import Throttle.Proofs.Shared.Outcomes

/-!
# What a call does

A call is a setter, or a request that a limiter serves in process, or one for which it puts a script
to its store; and a limiter leaves alone what it does not take. So it is in any context: a shared
limiter meets some executor, which may reply with anything and take any time.

From the cases follows what every call keeps. Whatever its executor does, a limiter changes nothing
in process but the state of the call's key and the number of its next request.

## Main definitions

* `Keyed.serve`: what a request makes of the state that its call meets
* `Limiter.setter?`: what a setter makes of a limiter
* `Limiter.Stepped`: what a call makes of a limiter and of the state of its store, by cases

## Main results

* `SharedSlidingWindow.exists_of_request`, `SharedSlidingLog.exists_of_request`: what a request with
  the parameters of its key does
* `Limiter.stepped_of_step`: the cases are all that a call can do
* `Limiter.changed_of_setter`: a setter changes nothing but the parameters of its key
* `Limiter.agreeOn_of_step`: **a call changes nothing under the other keys of a limiter**
-/

namespace Throttle

/-! ## Requests in process -/

namespace Keyed

variable {P S L ε α β : Type} {scheme : Scheme P S L}
  {decide : Call α → S → Except Fault (S × Except LimiterError Bool)} {k k' : Keyed scheme}
  {key : String} {b : β}

/-- What a request makes of the state that its call meets. -/
def serve (decide : Call α → S → Except Fault (S × Except LimiterError Bool))
    (k : Keyed scheme) (call : Call α) : Except Fault (Keyed scheme × Except LimiterError Bool) :=
  match k.meet call with
  | .error e => .ok (k, .error e)
  | .ok (k, s) => (decide call s).map fun (s, outcome) => (k.put call.key s, outcome)

theorem serve_allow (k : Keyed scheme) (key : String) (o : AllowOptions) :
    k.serve decide (.allow key o) = k.allow (decide (.allow key o)) key := rfl

theorem serve_take (k : Keyed scheme) (key : String) (n : ℕ) :
    k.serve decide (.take key n) = k.allow (decide (.take key n)) key := rfl

theorem serve_check (k : Keyed scheme) (r : Resource) (count : ℕ) :
    k.serve decide (.check r count) = k.check (decide (.check r count)) r := by
  rw [serve, check, meet]
  cases k.obtainFor r <;> rfl

/-- A confined operation changes nothing under the other keys. -/
theorem Confined.others {f : Keyed scheme → Except ε (Keyed scheme × β)}
    (confined : Confined key f) (made : f k = .ok (k', b)) : k.AgreeOn {key}ᶜ k' := by
  obtain ⟨_, -, -, -, others⟩ :=
    (confined.related (Set.mem_singleton key) (.refl {key} k)).exists_of_eq_ok made
  exact others

/-- A call is met in the state of its key. -/
theorem confined_meet (call : Call α) : Confined call.key fun k : Keyed scheme => k.meet call := by
  cases call with
  | check r count => exact confined_obtainFor r
  | _ => exact confined_obtain _

/-- A request is served in the state of its key. -/
theorem confined_serve (decide : Call α → S → Except Fault (S × Except LimiterError Bool))
    (call : Call α) : Confined call.key fun k : Keyed scheme => k.serve decide call := by
  cases call with
  | check r count =>
    simp only [serve_check]
    exact confined_check _ r
  | _ => exact confined_allow _ _

end Keyed

/-! ## Requests to a store -/

section Requests

variable {α β σ : Type} [Arithmetic α] {ctx : Context σ} {state state' : σ} {call : Call β}
  {outcome : Except LimiterError Bool}

/-- A request to a shared bucket changes nothing under the other keys. -/
theorem SharedLeakyBucket.agreeOn_of_serve {l l' : SharedLeakyBucket α} {call : Call α}
    (served : l.serve ctx state call = .ok ((l', state'), outcome)) :
    (Limiter.sharedLeakyBucket l).AgreeOn {call.key}ᶜ (.sharedLeakyBucket l') := by
  unfold serve at served
  split at served
  · cases served
    exact .refl ..
  · rename_i keyed params met
    obtain ⟨_, -, same⟩ := exists_of_map_eq_ok served
    cases same
    exact .sharedLeakyBucket ((Keyed.confined_meet call).others met)

/-- The states in which a shared window meets a call are its own but for the key of the call. -/
theorem SharedSlidingWindow.agreeOn_of_meet {l : SharedSlidingWindow}
    {keyed : Keyed SlidingWindow.sharedScheme} {params : SlidingWindow.Config}
    (met : l.meet call = .ok (keyed, params)) : l.keyed.AgreeOn {call.key}ᶜ keyed := by
  cases call with
  | shouldAllow key window limit =>
    obtain ⟨u, -, same⟩ := exists_of_map_eq_ok met
    cases same
    exact .refl ..
  | _ => exact (Keyed.confined_meet _).others met

/-- A request to a shared window changes nothing under the other keys. -/
theorem SharedSlidingWindow.agreeOn_of_serve {l l' : SharedSlidingWindow}
    (served : l.serve ctx state call = .ok ((l', state'), outcome)) :
    (Limiter.sharedSlidingWindow l : Limiter α).AgreeOn {call.key}ᶜ (.sharedSlidingWindow l') := by
  unfold serve at served
  split at served
  · cases served
    exact .refl ..
  · rename_i keyed params met
    rw [eq_of_request served]
    exact .sharedSlidingWindow (agreeOn_of_meet met)

/-- A request to a shared log changes nothing under the other keys. -/
theorem SharedSlidingLog.agreeOn_of_serve {l l' : SharedSlidingLog}
    (served : l.serve ctx state call = .ok ((l', state'), outcome)) :
    (Limiter.sharedSlidingLog l : Limiter α).AgreeOn {call.key}ᶜ (.sharedSlidingLog l') := by
  unfold serve at served
  split at served
  · cases served
    exact .refl ..
  · rename_i keyed params met
    rw [eq_of_request served]
    exact .sharedSlidingLog ((Keyed.confined_meet call).others met)

/-- What a request to a shared window does: nothing, or a script and a renewal. -/
theorem SharedSlidingWindow.exists_of_request {l l' : SharedSlidingWindow} {key : String}
    {params : SlidingWindow.Config}
    (made : request ctx l state key params = .ok ((l', state'), outcome)) :
    (∃ e, params.window.window? = .error e ∧ l' = l ∧ state' = state ∧ outcome = .error e) ∨
    ∃ length boundary lifetime ran reply, params.window.window? = .ok length ∧
      ctx.now.shift? (-length) = some boundary ∧ params.window.plus? l.grace = some lifetime ∧
      ctx.eval l.timeout .slidingWindow key
        (arguments boundary ctx.now params.limit (l.members.next ctx.now.micros).2) state =
          .ok (ran, reply) ∧
      l' = { l with members := (l.members.next ctx.now.micros).1 } ∧
      state' = ctx.refresh key lifetime ran ∧ outcome = reply.bind decision := by
  rw [request] at made
  cases length : params.window.window? with
  | error e =>
    rw [length] at made
    cases made
    exact .inl ⟨e, rfl, rfl, rfl, rfl⟩
  | ok nanos =>
    simp only [length] at made
    split at made
    · cases made
    · rename_i boundary moved
      split at made
      · cases made
      · rename_i ran reply evaluated
        split at made
        · cases made
        · rename_i lifetime lasts
          cases made
          exact .inr ⟨nanos, boundary, lifetime, ran, reply, rfl, moved, lasts, evaluated, rfl,
            rfl, rfl⟩

/-- What a request to a shared log does: nothing, or a script and a renewal. -/
theorem SharedSlidingLog.exists_of_request {l l' : SharedSlidingLog} {key : String}
    {params : SlidingLog.Config} {o : AllowOptions}
    (made : request ctx l state key params o = .ok ((l', state'), outcome)) :
    (∃ e, o.windowBounds ctx.now params.window.nanos params.fixedWindow = .ok (.error e) ∧ l' = l ∧
      state' = state ∧ outcome = .error e) ∨
    ∃ left right lifetime ran reply,
      o.windowBounds ctx.now params.window.nanos params.fixedWindow = .ok (.ok (left, right)) ∧
      (countedFor o params.window ctx.now right).plus? l.grace = some lifetime ∧
      ctx.eval l.timeout .slidingLog key
        (arguments left right ctx.now params.limit o.weight (l.members.next ctx.now.micros).2)
        state = .ok (ran, reply) ∧
      l' = { l with members := (l.members.next ctx.now.micros).1 } ∧
      state' = ctx.refresh key lifetime ran ∧ outcome = reply.bind decision := by
  rw [request] at made
  cases resolved : o.windowBounds ctx.now params.window.nanos params.fixedWindow with
  | error fault =>
    rw [resolved] at made
    cases made
  | ok bounds =>
    cases bounds with
    | error e =>
      rw [resolved] at made
      cases made
      exact .inl ⟨e, rfl, rfl, rfl, rfl⟩
    | ok bounds =>
      obtain ⟨left, right⟩ := bounds
      simp only [resolved] at made
      split at made
      · cases made
      · rename_i ran reply evaluated
        split at made
        · cases made
        · rename_i lifetime lasts
          cases made
          exact .inr ⟨left, right, lifetime, ran, reply, rfl, lasts, evaluated, rfl, rfl, rfl⟩

end Requests

/-! ## Calls -/

namespace Limiter

variable {α σ : Type} [Arithmetic α] {ctx : Context σ} {l l' : Limiter α} {state state' : σ}
  {call : Call α} {outcome : Outcome}

/-- What a setter makes of a limiter; requests are none. -/
def setter? (now : Instant) (l : Limiter α) : Call α → Option (Except LimiterError (Limiter α))
  | .setRate key rate => some (l.setRate now key rate)
  | .setLimit key limit => some (l.setLimit now key limit)
  | .setBurst key burst => some (l.setBurst key burst)
  | .setWindow key window => some (l.setWindow key window)
  | .setFixedWindow key w => some (.ok (l.setFixedWindow key w))
  | .setLimitFor r => some (l.setLimitFor now r)
  | .setBurstFor r => some (l.setBurstFor r)
  | .setWindowFor r => some (l.setWindowFor r)
  | _ => none

/-- What a call makes of a limiter and of the state of its store, with the outcome. -/
inductive Stepped (ctx : Context σ) (state : σ) (call : Call α) :
    Limiter α → Limiter α × σ → Outcome → Prop where
  | set {l l' : Limiter α} (sets : l.setter? ctx.now call = some (.ok l')) :
    Stepped ctx state call l (l', state) (.ok none)
  | refused {l : Limiter α} {e : LimiterError} (sets : l.setter? ctx.now call = some (.error e)) :
    Stepped ctx state call l (l, state) (.error e)
  /-- The limiter does not take the call. -/
  | untaken {l : Limiter α} : Stepped ctx state call l (l, state) (.ok none)
  | tokenBucket {k k' : Keyed (TokenBucket.scheme α)} {answer : Except LimiterError Bool}
    (served : k.serve (fun call => TokenBucket.decide ctx.now call.units) call = .ok (k', answer)) :
    Stepped ctx state call (tokenBucket k) (tokenBucket k', state) (answer.map some)
  | leakyBucket {k k' : Keyed (LeakyBucket.scheme α)} {answer : Except LimiterError Bool}
    (served : k.serve (fun call => LeakyBucket.decide ctx.now call.units) call = .ok (k', answer)) :
    Stepped ctx state call (leakyBucket k) (leakyBucket k', state) (answer.map some)
  | slidingWindow {k k' : Keyed SlidingWindow.scheme} {answer : Except LimiterError Bool}
    (served : k.serve (fun _ => SlidingWindow.decide ctx.now) call = .ok (k', answer)) :
    Stepped ctx state call (slidingWindow k) (slidingWindow k', state) (answer.map some)
  | slidingLog {k k' : Keyed SlidingLog.scheme} {answer : Except LimiterError Bool}
    (served : k.serve (fun call => SlidingLog.decide ctx.now call.options) call =
      .ok (k', answer)) :
    Stepped ctx state call (slidingLog k) (slidingLog k', state) (answer.map some)
  | sharedLeakyBucket {s s' : SharedLeakyBucket α} {state' : σ} {answer : Except LimiterError Bool}
    {script : Script} (asks : (sharedLeakyBucket s).scriptFor? call = some script)
    (served : s.serve ctx state call = .ok ((s', state'), answer)) :
    Stepped ctx state call (sharedLeakyBucket s) (sharedLeakyBucket s', state') (answer.map some)
  | sharedSlidingWindow {s s' : SharedSlidingWindow} {state' : σ}
    {answer : Except LimiterError Bool} {script : Script}
    (asks : (sharedSlidingWindow s).scriptFor? call = some script)
    (served : s.serve ctx state call = .ok ((s', state'), answer)) :
    Stepped ctx state call (sharedSlidingWindow s) (sharedSlidingWindow s', state')
      (answer.map some)
  | sharedSlidingLog {s s' : SharedSlidingLog} {state' : σ} {answer : Except LimiterError Bool}
    {script : Script} (asks : (sharedSlidingLog s).scriptFor? call = some script)
    (served : s.serve ctx state call = .ok ((s', state'), answer)) :
    Stepped ctx state call (sharedSlidingLog s) (sharedSlidingLog s', state') (answer.map some)

/-- A setter leaves the state of the store as it is. -/
theorem stepped_of_changed {result : Except LimiterError (Limiter α)}
    (sets : l.setter? ctx.now call = some result)
    (made : changed l state result = .ok ((l', state'), outcome)) :
    Stepped ctx state call l (l', state') outcome := by
  cases result with
  | ok next =>
    cases made
    exact .set sets
  | error e =>
    cases made
    exact .refused sets

/-- A shared limiter puts a script to its store. -/
theorem stepped_of_script {script : Script} (asks : l.scriptFor? call = some script)
    (made : step ctx (l, state) call = .ok ((l', state'), outcome)) :
    Stepped ctx state call l (l', state') outcome := by
  cases l with
  | sharedLeakyBucket s =>
    rw [(step_sharedLeakyBucket ctx state asks).2] at made
    obtain ⟨_, served, same⟩ := exists_of_map_eq_ok made
    cases same
    exact .sharedLeakyBucket asks served
  | sharedSlidingWindow s =>
    rw [(step_sharedSlidingWindow ctx state asks).2] at made
    obtain ⟨_, served, same⟩ := exists_of_map_eq_ok made
    cases same
    exact .sharedSlidingWindow asks served
  | sharedSlidingLog s =>
    rw [(step_sharedSlidingLog ctx state asks).2] at made
    obtain ⟨_, served, same⟩ := exists_of_map_eq_ok made
    cases same
    exact .sharedSlidingLog asks served
  | _ => cases asks

/-- A request in process is a step if what serves it is one. -/
theorem stepped_of_answered {P S L : Type} {scheme : Scheme P S L} {k : Keyed scheme}
    {wrap : Keyed scheme → Limiter α}
    {decide : Call α → S → Except Fault (S × Except LimiterError Bool)}
    {served : Except Fault (Keyed scheme × Except LimiterError Bool)}
    (stepped : ∀ {k' answer}, k.serve decide call = .ok (k', answer) →
      Stepped ctx state call l (wrap k', state) (answer.map some))
    (serves : k.serve decide call = served)
    (made : answered (served.map fun (k, answer) => ((wrap k, state), answer)) =
      .ok ((l', state'), outcome)) :
    Stepped ctx state call l (l', state') outcome := by
  obtain ⟨_, answers, same⟩ := exists_of_map_eq_ok made
  obtain ⟨⟨k', answer⟩, ended, rfl⟩ := exists_of_map_eq_ok answers
  cases same
  exact stepped (serves.trans ended)

/-- **What a call can do**: a limiter is set, or leaves the call alone, or serves it. -/
theorem stepped_of_step (made : step ctx (l, state) call = .ok ((l', state'), outcome)) :
    Stepped ctx state call l (l', state') outcome := by
  cases asks : l.scriptFor? call with
  | some script => exact stepped_of_script asks made
  | none =>
    cases call with
    | allow key o =>
      cases l with
      | tokenBucket k => exact stepped_of_answered .tokenBucket (k.serve_allow key o) made
      | leakyBucket k => exact stepped_of_answered .leakyBucket (k.serve_allow key o) made
      | slidingWindow k => exact stepped_of_answered .slidingWindow (k.serve_allow key o) made
      | slidingLog k => exact stepped_of_answered .slidingLog (k.serve_allow key o) made
      | _ => cases asks
    | check r count =>
      cases l with
      | tokenBucket k => exact stepped_of_answered .tokenBucket (k.serve_check r count) made
      | leakyBucket k => exact stepped_of_answered .leakyBucket (k.serve_check r count) made
      | slidingWindow k => exact stepped_of_answered .slidingWindow (k.serve_check r count) made
      | slidingLog k => exact stepped_of_answered .slidingLog (k.serve_check r count) made
      | _ => cases asks
    | take key n =>
      cases l with
      | tokenBucket k => exact stepped_of_answered .tokenBucket (k.serve_take key n) made
      | leakyBucket k => exact stepped_of_answered .leakyBucket (k.serve_take key n) made
      | sharedLeakyBucket s => cases asks
      | _ =>
        cases made
        exact .untaken
    | shouldAllow key window limit =>
      cases l with
      | sharedSlidingWindow s => cases asks
      | _ =>
        cases made
        exact .untaken
    | _ => exact stepped_of_changed rfl made

/-- A setter changes nothing but the parameters of its key. -/
theorem changed_of_setter {now : Instant} (sets : l.setter? now call = some (.ok l')) :
    Changed {call.key} call.key l l l' l' := by
  have itself : l.AgreeOn {call.key} l := .refl ..
  have own : call.key ∈ ({call.key} : Set String) := rfl
  have passes {result : Except LimiterError (Limiter α)}
      (set : Related (Changed {call.key} call.key l l) result result)
      (passes : some result = some (.ok l')) : Changed {call.key} call.key l l l' l' := by
    obtain ⟨next, same, set⟩ := set.exists_of_eq_ok (Option.some.inj passes)
    cases (Option.some.inj passes).symm.trans same
    exact set
  cases call with
  | setRate key rate => exact passes (setRate_related itself own now rate) sets
  | setLimit key limit => exact passes (setLimit_related itself own now limit) sets
  | setBurst key burst =>
    exact passes (change_related itself own (Keyed.confined_change key _)) sets
  | setWindow key window =>
    exact passes (change_related itself own (Keyed.confined_change key _)) sets
  | setFixedWindow key w => exact passes (setFixedWindow_related itself own w) sets
  | setLimitFor r => exact passes (change_related itself own (Keyed.confined_changeFor r _)) sets
  | setBurstFor r => exact passes (change_related itself own (Keyed.confined_changeFor r _)) sets
  | setWindowFor r => exact passes (change_related itself own (Keyed.confined_changeFor r _)) sets
  | _ => cases sets

/-- A setter changes nothing under the other keys. -/
theorem agreeOn_of_setter {now : Instant} (sets : l.setter? now call = some (.ok l')) :
    l.AgreeOn {call.key}ᶜ l' :=
  (changed_of_setter sets).others

/-- **A call changes nothing under the other keys of a limiter**, whatever its context. -/
theorem agreeOn_of_step (made : step ctx (l, state) call = .ok ((l', state'), outcome)) :
    l.AgreeOn {call.key}ᶜ l' := by
  cases stepped_of_step made with
  | set sets => exact agreeOn_of_setter sets
  | refused | untaken => exact .refl ..
  | tokenBucket served => exact .tokenBucket ((Keyed.confined_serve _ call).others served)
  | leakyBucket served => exact .leakyBucket ((Keyed.confined_serve _ call).others served)
  | slidingWindow served => exact .slidingWindow ((Keyed.confined_serve _ call).others served)
  | slidingLog served => exact .slidingLog ((Keyed.confined_serve _ call).others served)
  | sharedLeakyBucket asks served => exact SharedLeakyBucket.agreeOn_of_serve served
  | sharedSlidingWindow asks served => exact SharedSlidingWindow.agreeOn_of_serve served
  | sharedSlidingLog asks served => exact SharedSlidingLog.agreeOn_of_serve served

end Limiter

end Throttle
