import Throttle.Policy.Set

/-!
# The parameters in force

A limiter starts the state of a resource when it is first used, and its setters change the state
part by part. The three setters of a resource whose parameters are valid leave a state with these
parameters, whether it was there before or is new, and none of them fails. Requests change no
parameters.

The argument is made once for all schemes of states, and each limiter brings its scheme.

## Main definitions

* `Parameters α`: the parameters of a key, as far as its algorithm has a use for them
* `Limiter.live?`: the parameters that a limiter holds for a key
* `Limiter.kind`: the algorithm of a limiter and where it keeps its states
* `Scheme.Adopts`: a state takes the parameters of a resource

## Main results

* `Keyed.exists_applyFor`: the setters of a valid resource pass and leave its parameters
* `Keyed.shows_check`: a request starts a state with the parameters of its resource
* `Limiter.exists_applyFor`, `Limiter.shows_check`: the same for every limiter
-/

namespace Throttle

/-- The parameters of a key, as far as its algorithm has a use for them. -/
inductive Parameters (α : Type) where
  | bucket (rate : α) (capacity : Nat)
  /-- The length is in nanoseconds. -/
  | window (limit : Nat) (length : Int)
deriving DecidableEq

/-! ## Schemes -/

/-- What a setter that passes does to a state. -/
def Change.effect? {S : Type} : Change S → Option (S → S)
  | .unused => some id
  | .refused _ => none
  | .apply f => some f

theorem Change.effect?_when {S : Type} {check : Except LimiterError Unit} (h : check = .ok ())
    (f : S → S) : (Change.when check f).effect? = some f := by
  rw [when_of_ok h, effect?]

section Keyed

variable {P S L V : Type} {scheme : Scheme P S L}

/-- A resource is valid, and a state that starts from it, or on which its setters have been called,
shows the parameters `target`. -/
structure Scheme.Adopts (scheme : Scheme P S L) (view : S → V) (r : Resource) (target : V) :
    Prop where
  valid : ∀ defaults, scheme.validate (scheme.ofResource defaults r) = .ok ()
  start : ∀ defaults, view (scheme.start (scheme.ofResource defaults r)) = target
  sets : ∀ now, ∃ f g h, (scheme.setLimit (scheme.limitOf r.limit) now).effect? = some f ∧
    (scheme.setBurst r.burst).effect? = some g ∧ (scheme.setWindow r.window).effect? = some h ∧
    ∀ s, view (h (g (f s))) = target

namespace Keyed

/-- The state of a key, if there is one, shows the parameters `target`. -/
def Shows (k : Keyed scheme) (view : S → V) (key : String) (target : V) : Prop :=
  ∀ live, (k.get? key).map view = some live → live = target

/-- The state of a resource, or the one that it would start. -/
def stateFor (k : Keyed scheme) (r : Resource) : S :=
  (k.get? r.name).getD (scheme.start (scheme.ofResource k.defaults r))

theorem shows_of_stateFor {k : Keyed scheme} {view : S → V} {r : Resource} {target : V}
    (h : view (k.stateFor r) = target) : k.Shows view r.name target := by
  intro live found
  obtain ⟨s, held, rfl⟩ := Option.map_eq_some_iff.1 found
  rw [stateFor, held, Option.getD_some] at h
  exact h

theorem view_stateFor {k : Keyed scheme} {view : S → V} {r : Resource} {target : V}
    (start : view (scheme.start (scheme.ofResource k.defaults r)) = target)
    (shows : k.Shows view r.name target) : view (k.stateFor r) = target := by
  rw [stateFor]
  cases held : k.get? r.name with
  | none => exact start
  | some s => exact shows _ (by rw [held, Option.map_some, Option.getD_some])

/-- The use of a valid resource gives its state and keeps it. -/
theorem exists_obtainFor {k : Keyed scheme} {r : Resource}
    (valid : scheme.validate (scheme.ofResource k.defaults r) = .ok ()) :
    ∃ k', k.obtainFor r = .ok (k', k.stateFor r) ∧ k'.defaults = k.defaults ∧
      k'.get? r.name = some (k.stateFor r) := by
  rw [obtainFor, Registry.tryObtain, stateFor]
  cases held : k.get? r.name with
  | some s =>
    rw [show k.states.get? r.name = some s from held]
    exact ⟨k, rfl, rfl, held⟩
  | none =>
    rw [show k.states.get? r.name = none from held]
    simp only [valid, Except.map, Registry.settle, show k.states.get? r.name = none from held]
    exact ⟨_, rfl, rfl, by rw [get?, Registry.get?_put, if_pos rfl, Option.getD_none]⟩

/-- A setter that passes changes the state of a valid resource, or leaves it where it has no use
for it. -/
theorem exists_changeFor {k : Keyed scheme} {r : Resource} {c : Change S} {f : S → S}
    (valid : scheme.validate (scheme.ofResource k.defaults r) = .ok ())
    (passes : c.effect? = some f) :
    ∃ k', k.changeFor r c = .ok k' ∧ k'.defaults = k.defaults ∧
      k'.stateFor r = f (k.stateFor r) := by
  cases c with
  | unused =>
    cases passes
    exact ⟨k, rfl, rfl, rfl⟩
  | refused e => cases passes
  | apply f =>
    cases passes
    obtain ⟨k', obtained, same, -⟩ := exists_obtainFor valid
    refine ⟨k'.put r.name (f (k.stateFor r)), by rw [changeFor, obtained, Except.map], same, ?_⟩
    rw [stateFor, get?_put, if_pos rfl, Option.getD_some]

/-- **The three setters of a valid resource pass**, and its state then shows its parameters. -/
theorem exists_applyFor {view : S → V} {r : Resource} {target : V}
    (adopts : scheme.Adopts view r target) (k : Keyed scheme) (now : Instant) :
    ∃ k₁ k₂ k₃, k.setLimitFor r now = .ok k₁ ∧ k₁.setBurstFor r = .ok k₂ ∧
      k₂.setWindowFor r = .ok k₃ ∧ k₃.Shows view r.name target := by
  obtain ⟨f, g, h, limit, burst, window, reaches⟩ := adopts.sets now
  obtain ⟨k₁, set₁, -, state₁⟩ := exists_changeFor (adopts.valid k.defaults) limit
  obtain ⟨k₂, set₂, -, state₂⟩ := exists_changeFor (adopts.valid k₁.defaults) burst
  obtain ⟨k₃, set₃, -, state₃⟩ := exists_changeFor (adopts.valid k₂.defaults) window
  refine ⟨k₁, k₂, k₃, set₁, set₂, set₃, shows_of_stateFor ?_⟩
  rw [state₃, state₂, state₁]
  exact reaches _

/-- The use of a resource starts a state with its parameters. -/
theorem shows_obtainFor {view : S → V} {r : Resource} {target : V}
    (adopts : scheme.Adopts view r target) {k k' : Keyed scheme} {s : S}
    (shows : k.Shows view r.name target) (obtained : k.obtainFor r = .ok (k', s)) :
    k'.Shows view r.name target ∧ view s = target := by
  obtain ⟨k'', same, -, held⟩ := exists_obtainFor (adopts.valid k.defaults)
  rw [obtained] at same
  cases same
  have viewed := view_stateFor (adopts.start k.defaults) shows
  refine ⟨fun live found => ?_, viewed⟩
  rw [held, Option.map_some, Option.some.injEq] at found
  exact found.symm.trans viewed

/-- A request starts a state with the parameters of its resource and changes none. -/
theorem shows_check {decide : S → Except Fault (S × Except LimiterError Bool)} {view : S → V}
    {r : Resource} {target : V} (adopts : scheme.Adopts view r target)
    (keeps : ∀ s s' outcome, decide s = .ok (s', outcome) → view s' = view s)
    {k k' : Keyed scheme} {outcome : Except LimiterError Bool}
    (shows : k.Shows view r.name target) (checked : k.check decide r = .ok (k', outcome)) :
    k'.Shows view r.name target := by
  rw [check] at checked
  cases obtained : k.obtainFor r with
  | error e =>
    rw [obtained] at checked
    cases checked
    exact shows
  | ok next =>
    rw [obtained] at checked
    cases decided : decide next.2 with
    | error fault => simp [decided, Except.map] at checked
    | ok answer =>
      simp only [decided, Except.map, Except.ok.injEq, Prod.mk.injEq] at checked
      obtain ⟨rfl, rfl⟩ := checked
      have viewed := (shows_obtainFor adopts shows obtained).2
      intro live found
      rw [get?_put, if_pos rfl, Option.map_some, Option.some.injEq] at found
      exact found.symm.trans ((keeps _ _ _ decided).trans viewed)

end Keyed

end Keyed

/-! ## The seven schemes -/

section Buckets

variable {α : Type} [Arithmetic α] (r : Resource)

def TokenBucket.parameters (b : TokenBucket α) : Parameters α := .bucket b.rate b.capacity

def LeakyBucket.parameters (b : LeakyBucket α) : Parameters α := .bucket b.rate b.volume

def LeakyBucket.Config.parameters (c : LeakyBucket.Config α) : Parameters α :=
  .bucket c.rate c.volume

theorem TokenBucket.adopts (valid : (Config.ofResource r : Config α).validate = .ok ()) :
    (scheme α).Adopts parameters r (.bucket (r.limit : α) r.burst) where
  valid _ := valid
  start _ := rfl
  sets now := by
    obtain ⟨rate, burst⟩ := Config.validate_eq_ok_iff.1 valid
    exact ⟨_, _, _, Change.effect?_when rate _,
      Change.effect?_when (checkPositive_eq_ok_iff.2 burst) _, rfl, fun _ => rfl⟩

theorem LeakyBucket.adopts (valid : (Config.ofResource r : Config α).validate = .ok ()) :
    (scheme α).Adopts parameters r (.bucket (r.limit : α) r.burst) where
  valid _ := valid
  start _ := rfl
  sets now := by
    obtain ⟨rate, volume⟩ := Config.validate_eq_ok_iff.1 valid
    exact ⟨_, _, _, Change.effect?_when rate _,
      Change.effect?_when (checkPositive_eq_ok_iff.2 volume) _, rfl, fun _ => rfl⟩

theorem LeakyBucket.adopts_shared (valid : (Config.ofResource r : Config α).validate = .ok ()) :
    (sharedScheme α).Adopts Config.parameters r (.bucket (r.limit : α) r.burst) where
  valid _ := valid
  start _ := rfl
  sets now := by
    obtain ⟨rate, volume⟩ := Config.validate_eq_ok_iff.1 valid
    exact ⟨_, _, _, Change.effect?_when rate _,
      Change.effect?_when (checkPositive_eq_ok_iff.2 volume) _, rfl, fun _ => rfl⟩

end Buckets

section Windows

variable (α : Type) (r : Resource)

def SlidingWindow.parameters (w : SlidingWindow) : Parameters α := .window w.limit w.length

def SlidingWindow.Config.parameters (c : SlidingWindow.Config) : Parameters α :=
  .window c.limit c.window.nanos

def SlidingLog.parameters (l : SlidingLog) : Parameters α := .window l.limit l.length

def SlidingLog.Config.parameters (c : SlidingLog.Config) : Parameters α :=
  .window c.limit c.window.nanos

theorem SlidingWindow.adopts (valid : (Config.ofResource r).validate = .ok ()) :
    scheme.Adopts (parameters α) r (.window r.limit r.window.nanos) where
  valid _ := valid
  start _ := rfl
  sets now := by
    obtain ⟨limit, window⟩ := Config.validate_eq_ok_iff.1 valid
    exact ⟨_, _, _, Change.effect?_when (checkPositive_eq_ok_iff.2 limit) _, rfl,
      Change.effect?_when (Span.checkWindow_eq_ok_iff.2 window) _, fun _ => rfl⟩

theorem SlidingWindow.adopts_shared (valid : (Config.ofResource r).validate = .ok ()) :
    sharedScheme.Adopts (Config.parameters α) r (.window r.limit r.window.nanos) where
  valid _ := valid
  start _ := rfl
  sets now := by
    obtain ⟨limit, window⟩ := Config.validate_eq_ok_iff.1 valid
    exact ⟨_, _, _, Change.effect?_when (checkPositive_eq_ok_iff.2 limit) _, rfl,
      Change.effect?_when (Span.checkWindow_eq_ok_iff.2 window) _, fun _ => rfl⟩

theorem SlidingLog.adopts (valid : (⟨r.limit, r.window, none⟩ : Config).validate = .ok ()) :
    scheme.Adopts (parameters α) r (.window r.limit r.window.nanos) where
  valid _ := valid
  start _ := rfl
  sets now := by
    obtain ⟨limit, window⟩ := Config.validate_eq_ok_iff.1 valid
    exact ⟨_, _, _, Change.effect?_when (checkPositive_eq_ok_iff.2 limit) _, rfl,
      Change.effect?_when (Span.checkWindow_eq_ok_iff.2 window) _, fun _ => rfl⟩

theorem SlidingLog.adopts_shared
    (valid : (⟨r.limit, r.window, none⟩ : Config).validate = .ok ()) :
    sharedScheme.Adopts (Config.parameters α) r (.window r.limit r.window.nanos) where
  valid _ := valid
  start _ := rfl
  sets now := by
    obtain ⟨limit, window⟩ := Config.validate_eq_ok_iff.1 valid
    exact ⟨_, _, _, Change.effect?_when (checkPositive_eq_ok_iff.2 limit) _, rfl,
      Change.effect?_when (Span.checkWindow_eq_ok_iff.2 window) _, fun _ => rfl⟩

end Windows

/-! ## Requests change no parameters -/

section Requests

variable {α σ : Type}

theorem TokenBucket.parameters_decide [Arithmetic α] {now : Instant} {n : Nat}
    {b b' : TokenBucket α} {outcome : Except LimiterError Bool}
    (h : decide now n b = .ok (b', outcome)) :
    b'.parameters = b.parameters := by
  have refilled : (b.refill now).parameters = b.parameters := by
    unfold refill
    split
    · rfl
    · split <;> rfl
  have answered : (b.allow now n).1 = b' := congrArg Prod.fst (Except.ok.inj h)
  rw [← answered, allow_fst]
  exact refilled

theorem LeakyBucket.parameters_decide [Arithmetic α] {now : Instant} {n : Nat}
    {b b' : LeakyBucket α} {outcome : Except LimiterError Bool}
    (h : decide now n b = .ok (b', outcome)) :
    b'.parameters = b.parameters := by
  have drained : (b.drain now).parameters = b.parameters := by
    unfold drain
    split <;> rfl
  have answered : (b.allow now n).1 = b' := congrArg Prod.fst (Except.ok.inj h)
  rw [← answered, allow]
  split <;> exact drained

theorem SlidingWindow.parameters_decide {now : Instant} {w w' : SlidingWindow}
    {outcome : Except LimiterError Bool} (h : decide now w = .ok (w', outcome)) :
    w'.parameters α = w.parameters α := by
  obtain ⟨limit, length⟩ := w.parameters_allow now
  have answered : (w.allow now).1 = w' := congrArg Prod.fst (Except.ok.inj h)
  rw [← answered, parameters, limit, length, parameters]

theorem SlidingLog.parameters_decide {now : Instant} {o : AllowOptions} {l l' : SlidingLog}
    {outcome : Except LimiterError Bool} (h : decide now o l = .ok (l', outcome)) :
    l'.parameters α = l.parameters α := by
  rcases allow_eq_ok h with ⟨-, -, -, rfl⟩ | ⟨left, right, -, ⟨-, -, rfl⟩ | ⟨-, -, rfl⟩⟩ <;> rfl

theorem SharedLeakyBucket.shows_check [Arithmetic α] {view : LeakyBucket.Config α → Parameters α}
    {r : Resource} {target : Parameters α}
    (adopts : (LeakyBucket.sharedScheme α).Adopts view r target) {ctx : Context σ}
    {l l' : SharedLeakyBucket α} {state state' : σ} {n : Nat} {outcome : Except LimiterError Bool}
    (shows : l.keyed.Shows view r.name target)
    (h : check ctx l state r n = .ok ((l', state'), outcome)) :
    l'.keyed.Shows view r.name target := by
  unfold check at h
  split at h
  · cases h
    exact shows
  · rename_i obtained
    obtain ⟨_, -, same⟩ := exists_of_map_eq_ok h
    cases same
    exact (Keyed.shows_obtainFor adopts shows obtained).1

/-- A request of a shared window changes nothing of the limiter but its names. -/
theorem SharedSlidingWindow.eq_of_request {ctx : Context σ} {l l' : SharedSlidingWindow}
    {state state' : σ} {key : String} {params : SlidingWindow.Config}
    {outcome : Except LimiterError Bool}
    (h : request ctx l state key params = .ok ((l', state'), outcome)) :
    l' = { l with members := l'.members } := by
  unfold request at h
  split at h
  · cases h
    rfl
  · split at h
    · cases h
    · dsimp only at h
      split at h
      · cases h
      · split at h <;> cases h
        rfl

/-- It keeps the parameters of all keys. -/
theorem SharedSlidingWindow.keyed_request {ctx : Context σ} {l l' : SharedSlidingWindow}
    {state state' : σ} {key : String} {params : SlidingWindow.Config}
    {outcome : Except LimiterError Bool}
    (h : request ctx l state key params = .ok ((l', state'), outcome)) : l'.keyed = l.keyed := by
  rw [eq_of_request h]

theorem SharedSlidingWindow.shows_check {view : SlidingWindow.Config → Parameters α}
    {r : Resource} {target : Parameters α}
    (adopts : SlidingWindow.sharedScheme.Adopts view r target) {ctx : Context σ}
    {l l' : SharedSlidingWindow} {state state' : σ} {outcome : Except LimiterError Bool}
    (shows : l.keyed.Shows view r.name target)
    (h : check ctx l state r = .ok ((l', state'), outcome)) :
    l'.keyed.Shows view r.name target := by
  unfold check at h
  split at h
  · cases h
    exact shows
  · rename_i obtained
    rw [keyed_request h]
    exact (Keyed.shows_obtainFor adopts shows obtained).1

/-- A request of a shared log changes nothing of the limiter but its names. -/
theorem SharedSlidingLog.eq_of_request {ctx : Context σ} {l l' : SharedSlidingLog}
    {state state' : σ} {key : String} {params : SlidingLog.Config} {o : AllowOptions}
    {outcome : Except LimiterError Bool}
    (h : request ctx l state key params o = .ok ((l', state'), outcome)) :
    l' = { l with members := l'.members } := by
  unfold request at h
  split at h
  · cases h
  · cases h
    rfl
  · dsimp only at h
    split at h
    · cases h
    · split at h <;> cases h
      rfl

/-- It keeps the parameters of all keys. -/
theorem SharedSlidingLog.keyed_request {ctx : Context σ} {l l' : SharedSlidingLog}
    {state state' : σ} {key : String} {params : SlidingLog.Config} {o : AllowOptions}
    {outcome : Except LimiterError Bool}
    (h : request ctx l state key params o = .ok ((l', state'), outcome)) : l'.keyed = l.keyed := by
  rw [eq_of_request h]

theorem SharedSlidingLog.shows_check {view : SlidingLog.Config → Parameters α}
    {r : Resource} {target : Parameters α}
    (adopts : SlidingLog.sharedScheme.Adopts view r target) {ctx : Context σ}
    {l l' : SharedSlidingLog} {state state' : σ} {o : AllowOptions}
    {outcome : Except LimiterError Bool} (shows : l.keyed.Shows view r.name target)
    (h : check ctx l state r o = .ok ((l', state'), outcome)) :
    l'.keyed.Shows view r.name target := by
  unfold check at h
  split at h
  · cases h
    exact shows
  · rename_i obtained
    rw [keyed_request h]
    exact (Keyed.shows_obtainFor adopts shows obtained).1

end Requests

/-! ## Limiters -/

/-- The parameters of a policy, as far as its algorithm has a use for them. -/
def PolicyConfig.parameters (α : Type) [Arithmetic α] (p : PolicyConfig) : Parameters α :=
  match p.algorithm with
  | .tokenBucket | .leakyBucket => .bucket (p.limit : α) p.burst
  | .slidingWindow | .slidingLog => .window p.limit p.window.nanos

namespace Limiter

variable {α : Type} [Arithmetic α] {σ : Type}

/-- The algorithm of a limiter and where it keeps its states. -/
def kind : Limiter α → Algorithm × Backend
  | tokenBucket _ => (.tokenBucket, .inProcess)
  | leakyBucket _ => (.leakyBucket, .inProcess)
  | slidingWindow _ => (.slidingWindow, .inProcess)
  | slidingLog _ => (.slidingLog, .inProcess)
  | sharedLeakyBucket _ => (.leakyBucket, .shared)
  | sharedSlidingWindow _ => (.slidingWindow, .shared)
  | sharedSlidingLog _ => (.slidingLog, .shared)

/-- The parameters that a limiter holds for a key, if the key has been used. -/
def live? (l : Limiter α) (key : String) : Option (Parameters α) :=
  match l with
  | tokenBucket k => (k.get? key).map TokenBucket.parameters
  | leakyBucket k => (k.get? key).map LeakyBucket.parameters
  | slidingWindow k => (k.get? key).map (SlidingWindow.parameters α)
  | slidingLog k => (k.get? key).map (SlidingLog.parameters α)
  | sharedLeakyBucket s => (s.keyed.get? key).map LeakyBucket.Config.parameters
  | sharedSlidingWindow s => (s.keyed.get? key).map (SlidingWindow.Config.parameters α)
  | sharedSlidingLog s => (s.keyed.get? key).map (SlidingLog.Config.parameters α)

/-- The parameters of a key, if there are any, are `target`. -/
def Shows (l : Limiter α) (key : String) (target : Parameters α) : Prop :=
  ∀ live, l.live? key = some live → live = target

/-- The setters of a limiter are those of its scheme. -/
theorem exists_applyFor_of_adopts {P S L : Type} {scheme : Scheme P S L} {view : S → Parameters α}
    {r : Resource} {target : Parameters α} (adopts : scheme.Adopts view r target)
    (wrap : Keyed scheme → Limiter α)
    (change : ∀ k (setter : ∀ {P S L : Type} {scheme : Scheme P S L},
      Keyed scheme → Except LimiterError (Keyed scheme)),
      (wrap k).change setter = (setter k).map wrap)
    (live : ∀ k key, (wrap k).live? key = (k.get? key).map view)
    (kind : ∀ k k', (wrap k).kind = (wrap k').kind) (k : Keyed scheme) (now : Instant) :
    ∃ l₁ l₂ l₃, (wrap k).setLimitFor now r = .ok l₁ ∧ l₁.setBurstFor r = .ok l₂ ∧
      l₂.setWindowFor r = .ok l₃ ∧ l₃.kind = (wrap k).kind ∧ l₃.Shows r.name target := by
  obtain ⟨k₁, k₂, k₃, limit, burst, window, shows⟩ := k.exists_applyFor adopts now
  refine ⟨wrap k₁, wrap k₂, wrap k₃, ?_, ?_, ?_, kind k₃ k, ?_⟩
  · rw [setLimitFor, change, limit, Except.map]
  · rw [setBurstFor, change, burst, Except.map]
  · rw [setWindowFor, change, window, Except.map]
  · intro found
    rw [live]
    exact shows found

/-- **The three setters of a valid policy pass** on a limiter of its kind, in every state, and leave
its parameters. -/
theorem exists_applyFor {p : PolicyConfig} (valid : p.validateParameters α = .ok ())
    {l : Limiter α} (same : l.kind = (p.algorithm, p.backend)) (now : Instant) :
    ∃ l₁ l₂ l₃, l.setLimitFor now p.resource = .ok l₁ ∧ l₁.setBurstFor p.resource = .ok l₂ ∧
      l₂.setWindowFor p.resource = .ok l₃ ∧ l₃.kind = l.kind ∧
      l₃.Shows p.name (p.parameters α) := by
  obtain ⟨name, algorithm, backend, limit, burst, millis⟩ := p
  let r : Resource := ⟨name, limit, burst, .ofMillis millis⟩
  cases l <;> cases same
  case tokenBucket k =>
    exact exists_applyFor_of_adopts (TokenBucket.adopts r valid) tokenBucket
      (fun _ _ => rfl) (fun _ _ => rfl) (fun _ _ => rfl) k now
  case leakyBucket k =>
    exact exists_applyFor_of_adopts (LeakyBucket.adopts r valid) leakyBucket
      (fun _ _ => rfl) (fun _ _ => rfl) (fun _ _ => rfl) k now
  case slidingWindow k =>
    exact exists_applyFor_of_adopts (SlidingWindow.adopts α r valid) slidingWindow
      (fun _ _ => rfl) (fun _ _ => rfl) (fun _ _ => rfl) k now
  case slidingLog k =>
    exact exists_applyFor_of_adopts (SlidingLog.adopts α r valid) slidingLog
      (fun _ _ => rfl) (fun _ _ => rfl) (fun _ _ => rfl) k now
  case sharedLeakyBucket s =>
    exact exists_applyFor_of_adopts (LeakyBucket.adopts_shared r valid)
      (fun k => sharedLeakyBucket { s with keyed := k })
      (fun _ _ => rfl) (fun _ _ => rfl) (fun _ _ => rfl) s.keyed now
  case sharedSlidingWindow s =>
    exact exists_applyFor_of_adopts (SlidingWindow.adopts_shared α r valid)
      (fun k => sharedSlidingWindow { s with keyed := k })
      (fun _ _ => rfl) (fun _ _ => rfl) (fun _ _ => rfl) s.keyed now
  case sharedSlidingLog s =>
    exact exists_applyFor_of_adopts (SlidingLog.adopts_shared α r valid)
      (fun k => sharedSlidingLog { s with keyed := k })
      (fun _ _ => rfl) (fun _ _ => rfl) (fun _ _ => rfl) s.keyed now

/-- A request for a valid policy starts a state with its parameters and changes none. -/
theorem shows_check {p : PolicyConfig} (valid : p.validateParameters α = .ok ())
    {ctx : Context σ} {l l' : Limiter α} (same : l.kind = (p.algorithm, p.backend))
    {state state' : σ} {count : Nat} {outcome : Except LimiterError Bool}
    (shows : l.Shows p.name (p.parameters α))
    (checked : l.check ctx state p.resource count = .ok ((l', state'), outcome)) :
    l'.kind = l.kind ∧ l'.Shows p.name (p.parameters α) := by
  obtain ⟨name, algorithm, backend, limit, burst, millis⟩ := p
  let r : Resource := ⟨name, limit, burst, .ofMillis millis⟩
  cases l <;> cases same
  case tokenBucket k =>
    obtain ⟨_, answered, same⟩ := exists_of_map_eq_ok checked
    cases same
    exact ⟨rfl, Keyed.shows_check (TokenBucket.adopts r valid)
      (fun _ _ _ => TokenBucket.parameters_decide) shows answered⟩
  case leakyBucket k =>
    obtain ⟨_, answered, same⟩ := exists_of_map_eq_ok checked
    cases same
    exact ⟨rfl, Keyed.shows_check (LeakyBucket.adopts r valid)
      (fun _ _ _ => LeakyBucket.parameters_decide) shows answered⟩
  case slidingWindow k =>
    obtain ⟨_, answered, same⟩ := exists_of_map_eq_ok checked
    cases same
    exact ⟨rfl, Keyed.shows_check (SlidingWindow.adopts α r valid)
      (fun _ _ _ => SlidingWindow.parameters_decide) shows answered⟩
  case slidingLog k =>
    obtain ⟨_, answered, same⟩ := exists_of_map_eq_ok checked
    cases same
    exact ⟨rfl, Keyed.shows_check (SlidingLog.adopts α r valid)
      (fun _ _ _ => SlidingLog.parameters_decide) shows answered⟩
  case sharedLeakyBucket s =>
    obtain ⟨_, answered, same⟩ := exists_of_map_eq_ok checked
    cases same
    exact ⟨rfl, SharedLeakyBucket.shows_check (LeakyBucket.adopts_shared r valid) shows answered⟩
  case sharedSlidingWindow s =>
    obtain ⟨_, answered, same⟩ := exists_of_map_eq_ok checked
    cases same
    exact ⟨rfl, SharedSlidingWindow.shows_check (SlidingWindow.adopts_shared α r valid) shows
      answered⟩
  case sharedSlidingLog s =>
    obtain ⟨_, answered, same⟩ := exists_of_map_eq_ok checked
    cases same
    exact ⟨rfl, SharedSlidingLog.shows_check (SlidingLog.adopts_shared α r valid) shows answered⟩

end Limiter

end Throttle
