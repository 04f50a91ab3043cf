import Throttle.Proofs.Isolation.Keyed
import Throttle.Proofs.Policy.Parameters

/-!
# Resources that are valid

A valid resource always has a state: the one of its key, or the one that it starts. A request by
resource then is a request on this state, and a setter changes it. Neither can fail to find it.

## Main definitions

* `Limiter.Takes`: a resource is valid for a limiter
* `Limiter.parametersOf`: the parameters of a resource, as far as a limiter has a use for them
* `Limiter.adopt`: a limiter after the three setters of a resource

## Main results

* `Keyed.obtainFor_of_valid`, `Keyed.check_of_valid`, `Keyed.changeFor_of_valid`: the use of a valid
  resource, a request, and a setter that applies
* `SharedLeakyBucket.check_of_valid`, `SharedSlidingWindow.check_of_valid`,
  `SharedSlidingLog.check_of_valid`: requests whose parameters are those of the state
* `Limiter.takes_of_valid`: the limiter of a valid policy takes its resource
* `Limiter.applyResource_of_takes`: the setters of a resource that a limiter takes pass
-/

namespace Throttle

theorem exists_map_eq_ok_iff {ε β γ : Type} {f : β → γ} {x : Except ε β} :
    (∃ c, x.map f = .ok c) ↔ ∃ b, x = .ok b := by
  cases x <;> simp [Except.map]

namespace Keyed

variable {P S L : Type} {scheme : Scheme P S L} {k : Keyed scheme} {r : Resource}

/-- A state that is put under the key of a resource is its state. -/
theorem stateFor_put {key : String} (named : r.name = key) (s : S) :
    (k.put key s).stateFor r = s := by
  rw [stateFor, get?_put, if_pos named.symm, Option.getD_some]

section Valid

variable (valid : scheme.validate (scheme.ofResource k.defaults r) = .ok ())

include valid

/-- The use of a valid resource gives its state and keeps it. -/
theorem obtainFor_of_valid :
    k.obtainFor r = .ok (k.put r.name (k.stateFor r), k.stateFor r) := by
  have state : scheme.stateOf? k.defaults r (k.get? r.name) = .ok (k.stateFor r) := by
    rw [stateFor]
    cases k.get? r.name with
    | some s => rfl
    | none => simp only [Scheme.stateOf?, valid, Except.map, Option.getD_none]
  rw [obtainFor_eq, state, Except.map]

/-- A request for a valid resource is one on its state. -/
theorem check_of_valid (decide : S → Except Fault (S × Except LimiterError Bool)) :
    k.check decide r = (decide (k.stateFor r)).map fun (s, outcome) =>
      (k.put r.name s, outcome) := by
  rw [check, obtainFor_of_valid valid]
  simp only [put_put]

/-- A setter that applies changes the state of a valid resource. -/
theorem changeFor_of_valid (f : S → S) :
    k.changeFor r (.apply f) = .ok (k.put r.name (f (k.stateFor r))) := by
  rw [changeFor, obtainFor_of_valid valid]
  simp only [Except.map, put_put]

end Valid

/-- A setter that passes changes a state that is there, or leaves it where it has no use for it. -/
theorem changeFor_put {c : Change S} {f : S → S} (passes : c.effect? = some f) (s : S) :
    (k.put r.name s).changeFor r c = .ok (k.put r.name (f s)) := by
  cases c with
  | unused =>
    cases passes
    rfl
  | refused e => cases passes
  | apply f =>
    cases passes
    rw [changeFor, obtainFor_eq, get?_put, if_pos rfl]
    simp only [Scheme.stateOf?, Except.map, put_put]

end Keyed

variable {α σ : Type} {ctx : Context σ} {state : σ} {r : Resource}

theorem SharedLeakyBucket.check_of_valid [Arithmetic α] {l : SharedLeakyBucket α}
    (valid : (LeakyBucket.sharedScheme α).validate
      ((LeakyBucket.sharedScheme α).ofResource l.keyed.defaults r) = .ok ()) (n : ℕ) :
    l.check ctx state r n =
      let next := { l with keyed := l.keyed.put r.name (l.keyed.stateFor r) }
      (next.pour ctx r.name (l.keyed.stateFor r) n state).map fun (state, outcome) =>
        ((next, state), outcome) := by
  simp only [check, Keyed.obtainFor_of_valid valid]

theorem SharedSlidingWindow.check_of_valid {l : SharedSlidingWindow}
    (valid : SlidingWindow.sharedScheme.validate
      (SlidingWindow.sharedScheme.ofResource l.keyed.defaults r) = .ok ()) :
    l.check ctx state r =
      request ctx { l with keyed := l.keyed.put r.name (l.keyed.stateFor r) } state r.name
        (l.keyed.stateFor r) := by
  simp only [check, Keyed.obtainFor_of_valid valid]

theorem SharedSlidingLog.check_of_valid {l : SharedSlidingLog}
    (valid : SlidingLog.sharedScheme.validate
      (SlidingLog.sharedScheme.ofResource l.keyed.defaults r) = .ok ()) (o : AllowOptions) :
    l.check ctx state r o =
      request ctx { l with keyed := l.keyed.put r.name (l.keyed.stateFor r) } state r.name
        (l.keyed.stateFor r) o := by
  simp only [check, Keyed.obtainFor_of_valid valid]

/-! ## Limiters -/

namespace Limiter

variable [Arithmetic α]

/-- A resource is valid for the algorithm of a limiter. -/
def Takes (r : Resource) : Limiter α → Prop
  | tokenBucket _ => (TokenBucket.Config.ofResource r : TokenBucket.Config α).validate = .ok ()
  | leakyBucket _ | sharedLeakyBucket _ =>
    (LeakyBucket.Config.ofResource r : LeakyBucket.Config α).validate = .ok ()
  | slidingWindow _ | sharedSlidingWindow _ => (SlidingWindow.Config.ofResource r).validate = .ok ()
  | slidingLog _ | sharedSlidingLog _ =>
    (⟨r.limit, r.window, none⟩ : SlidingLog.Config).validate = .ok ()

/-- The parameters of a resource, as far as the algorithm of a limiter has a use for them. -/
def parametersOf (r : Resource) : Limiter α → Parameters α
  | tokenBucket _ | leakyBucket _ | sharedLeakyBucket _ => .bucket (r.limit : α) r.burst
  | slidingWindow _ | slidingLog _ | sharedSlidingWindow _ | sharedSlidingLog _ =>
    .window r.limit r.window.nanos

variable {p : PolicyConfig} {l : Limiter α}

/-- The limiter of a valid policy takes its resource. -/
theorem takes_of_valid (valid : p.validateParameters α = .ok ())
    (same : l.kind = (p.algorithm, p.backend)) : l.Takes p.resource := by
  obtain ⟨name, algorithm, backend, limit, burst, millis⟩ := p
  cases l <;> cases same <;> exact valid

theorem parameters_eq (same : l.kind = (p.algorithm, p.backend)) :
    p.parameters α = l.parametersOf p.resource := by
  obtain ⟨name, algorithm, backend, limit, burst, millis⟩ := p
  cases l <;> cases same <;> rfl

/-! ### The three setters -/

/-- The limiter after the three setters of a resource that it takes. -/
def adopt (now : Instant) (r : Resource) : Limiter α → Limiter α
  | tokenBucket k => tokenBucket <|
    k.put r.name (((k.stateFor r).setRate now (r.limit : α)).setCapacity r.burst)
  | leakyBucket k => leakyBucket <|
    k.put r.name (((k.stateFor r).setRate now (r.limit : α)).setVolume r.burst)
  | slidingWindow k => slidingWindow <|
    k.put r.name (((k.stateFor r).setLimit r.limit).setLength r.window.nanos)
  | slidingLog k => slidingLog <|
    k.put r.name (((k.stateFor r).setLimit r.limit).setLength r.window.nanos)
  | sharedLeakyBucket s => sharedLeakyBucket
    { s with keyed := s.keyed.put r.name ⟨(r.limit : α), r.burst⟩ }
  | sharedSlidingWindow s => sharedSlidingWindow
    { s with keyed := s.keyed.put r.name ⟨r.limit, r.window⟩ }
  | sharedSlidingLog s => sharedSlidingLog
    { s with
      keyed := s.keyed.put r.name
        ⟨r.limit, r.window, (s.keyed.stateFor r).fixedWindow⟩ }

/-- The three setters of a valid resource, one after the other. -/
theorem applyResource_eq_wrap {P S L : Type} {scheme : Scheme P S L} {k : Keyed scheme}
    (valid : scheme.validate (scheme.ofResource k.defaults r) = .ok ()) {now : Instant}
    {f g h : S → S} (limit : scheme.setLimit (scheme.limitOf r.limit) now = .apply f)
    (burst : (scheme.setBurst r.burst).effect? = some g)
    (window : (scheme.setWindow r.window).effect? = some h) (wrap : Keyed scheme → Limiter α)
    (change : ∀ k (setter : ∀ {P S L : Type} {scheme : Scheme P S L},
      Keyed scheme → Except LimiterError (Keyed scheme)),
      (wrap k).change setter = (setter k).map wrap) :
    PolicySet.applyResource (wrap k) now r =
      (wrap (k.put r.name (h (g (f (k.stateFor r))))), .ok ()) := by
  have first : (wrap k).setLimitFor now r = .ok (wrap (k.put r.name (f (k.stateFor r)))) := by
    rw [setLimitFor, change, Keyed.setLimitFor, limit, Keyed.changeFor_of_valid valid, Except.map]
  have second : (wrap (k.put r.name (f (k.stateFor r)))).setBurstFor r =
      .ok (wrap (k.put r.name (g (f (k.stateFor r))))) := by
    rw [setBurstFor, change, Keyed.setBurstFor, Keyed.changeFor_put burst, Except.map]
  have third : (wrap (k.put r.name (g (f (k.stateFor r))))).setWindowFor r =
      .ok (wrap (k.put r.name (h (g (f (k.stateFor r)))))) := by
    rw [setWindowFor, change, Keyed.setWindowFor, Keyed.changeFor_put window, Except.map]
  rw [PolicySet.applyResource, first]
  dsimp only
  rw [second]
  dsimp only
  rw [third]

/-- **The three setters of a resource that a limiter takes** pass, and adopt its parameters. -/
theorem applyResource_of_takes {l : Limiter α} (takes : l.Takes r) (now : Instant) :
    PolicySet.applyResource l now r = (l.adopt now r, .ok ()) := by
  cases l with
  | tokenBucket k =>
    obtain ⟨rate, burst⟩ := TokenBucket.Config.validate_eq_ok_iff.1 takes
    exact applyResource_eq_wrap ((TokenBucket.adopts r takes).valid _)
      (Change.when_of_ok rate _) (Change.effect?_when (checkPositive_eq_ok_iff.2 burst) _) rfl
      tokenBucket fun _ _ => rfl
  | leakyBucket k =>
    obtain ⟨rate, volume⟩ := LeakyBucket.Config.validate_eq_ok_iff.1 takes
    exact applyResource_eq_wrap ((LeakyBucket.adopts r takes).valid _)
      (Change.when_of_ok rate _) (Change.effect?_when (checkPositive_eq_ok_iff.2 volume) _) rfl
      leakyBucket fun _ _ => rfl
  | slidingWindow k =>
    obtain ⟨limit, window⟩ := SlidingWindow.Config.validate_eq_ok_iff.1 takes
    exact applyResource_eq_wrap ((SlidingWindow.adopts α r takes).valid _)
      (Change.when_of_ok (checkPositive_eq_ok_iff.2 limit) _) rfl
      (Change.effect?_when (Span.checkWindow_eq_ok_iff.2 window) _) slidingWindow fun _ _ => rfl
  | slidingLog k =>
    obtain ⟨limit, window⟩ := SlidingLog.Config.validate_eq_ok_iff.1 takes
    exact applyResource_eq_wrap ((SlidingLog.adopts α r takes).valid _)
      (Change.when_of_ok (checkPositive_eq_ok_iff.2 limit) _) rfl
      (Change.effect?_when (Span.checkWindow_eq_ok_iff.2 window) _) slidingLog fun _ _ => rfl
  | sharedLeakyBucket s =>
    obtain ⟨rate, volume⟩ := LeakyBucket.Config.validate_eq_ok_iff.1 takes
    exact applyResource_eq_wrap (k := s.keyed)
      ((LeakyBucket.adopts_shared (α := α) r takes).valid _)
      (Change.when_of_ok rate _) (Change.effect?_when (checkPositive_eq_ok_iff.2 volume) _) rfl
      (fun k => sharedLeakyBucket { s with keyed := k }) fun _ _ => rfl
  | sharedSlidingWindow s =>
    obtain ⟨limit, window⟩ := SlidingWindow.Config.validate_eq_ok_iff.1 takes
    exact applyResource_eq_wrap (k := s.keyed) ((SlidingWindow.adopts_shared α r takes).valid _)
      (Change.when_of_ok (checkPositive_eq_ok_iff.2 limit) _) rfl
      (Change.effect?_when (Span.checkWindow_eq_ok_iff.2 window) _)
      (fun k => sharedSlidingWindow { s with keyed := k }) fun _ _ => rfl
  | sharedSlidingLog s =>
    obtain ⟨limit, window⟩ := SlidingLog.Config.validate_eq_ok_iff.1 takes
    exact applyResource_eq_wrap (k := s.keyed) ((SlidingLog.adopts_shared α r takes).valid _)
      (Change.when_of_ok (checkPositive_eq_ok_iff.2 limit) _) rfl
      (Change.effect?_when (Span.checkWindow_eq_ok_iff.2 window) _)
      (fun k => sharedSlidingLog { s with keyed := k }) fun _ _ => rfl

end Limiter

end Throttle
