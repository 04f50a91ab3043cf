import Throttle.Options
import Throttle.Registry

/-!
# Keyed states

A limiter keeps one state per key. A state starts when its key is first used, from the limiter's
own parameters or from those of a resource, and stays from then on.

## Main definitions

* `Change S`: what a setter does to a state
* `Scheme P S L`: how states `S` start from parameters `P` and change, for limits of type `L`
* `Keyed scheme`: a limiter's parameters and states
* `Keyed.state`: the state of a key, or the one that it would start from
* `Keyed.obtain`, `Keyed.obtainFor`: the state of a key and that of a resource
* `Keyed.change`, `Keyed.changeFor`: a setter on a key and on a resource

## Main results

* `Keyed.get?_put`: a state's change shows under its own key only
* `Keyed.state_obtain`, `Keyed.state_put`: only a change shows in the states
* `Keyed.setLimit_of_when`: a limit that passes its check changes the state of the key
* `Keyed.change_eq_error_iff`: a setter fails only if it refuses its argument
-/

namespace Throttle

/-- What a setter does to a state of type `S`. -/
inductive Change (S : Type) where
  /-- The algorithm has no use for the setter. -/
  | unused
  | refused (error : LimiterError)
  | apply (f : S → S)

/-- The setter that applies `f` if a check passes. -/
def Change.when {S : Type} (check : Except LimiterError Unit) (f : S → S) : Change S :=
  match check with
  | .ok () => .apply f
  | .error e => .refused e

/-- A setter whose check passes applies. -/
theorem Change.when_of_ok {S : Type} {check : Except LimiterError Unit} (h : check = .ok ())
    (f : S → S) : Change.when check f = .apply f := by
  simp only [when, h]

/-- How states `S` start from parameters `P` and change. Limits have type `L`: a rate for buckets,
a count of requests for windows and logs. -/
structure Scheme (P S L : Type) where
  validate : P → Except LimiterError Unit
  start : P → S
  /-- The parameters that a resource names, given the limiter's own. -/
  ofResource : P → Resource → P
  limitOf : Nat → L
  setLimit : L → Instant → Change S
  setBurst : Nat → Change S
  setWindow : Span → Change S

/-- A limiter's parameters, which are valid, and its states. -/
structure Keyed {P S L : Type} (scheme : Scheme P S L) where
  /-- The parameters of states that start from a key alone. -/
  defaults : P
  valid : scheme.validate defaults = .ok ()
  states : Registry S

namespace Keyed

variable {P S L : Type} {scheme : Scheme P S L}

/-- A limiter without states, if the parameters are valid. -/
def create? (scheme : Scheme P S L) (defaults : P) : Except LimiterError (Keyed scheme) :=
  match h : scheme.validate defaults with
  | .ok () => .ok ⟨defaults, h, ∅⟩
  | .error e => .error e

/-- The state of a key, if the key has been used. -/
def get? (k : Keyed scheme) (key : String) : Option S := k.states.get? key

/-- The state of a key, or the one that it would start from if it has not been used. -/
def state (k : Keyed scheme) (key : String) : S := (k.get? key).getD (scheme.start k.defaults)

/-- The number of keys that have been used. -/
def size (k : Keyed scheme) : Nat := k.states.size

/-- Whether no key has been used. -/
def isEmpty (k : Keyed scheme) : Bool := k.states.isEmpty

/-- The limiter in which a key has the given state. -/
def put (k : Keyed scheme) (key : String) (s : S) : Keyed scheme :=
  { k with states := k.states.put key s }

/-- The state of a key; it starts from the limiter's parameters if the key is new. -/
def obtain (k : Keyed scheme) (key : String) : Keyed scheme × S :=
  let (states, s) := k.states.obtain key fun _ => scheme.start k.defaults
  ({ k with states := states }, s)

/-- The state of a resource; it starts from the resource's parameters if the key is new, and these
must be valid. -/
def obtainFor (k : Keyed scheme) (r : Resource) : Except LimiterError (Keyed scheme × S) :=
  let params := scheme.ofResource k.defaults r
  (k.states.tryObtain r.name fun _ =>
    (scheme.validate params).map fun _ => scheme.start params).map fun (states, s) =>
      ({ k with states := states }, s)

/-- A setter on a key. -/
def change (k : Keyed scheme) (key : String) : Change S → Except LimiterError (Keyed scheme)
  | .unused => .ok k
  | .refused e => .error e
  | .apply f =>
    let (k, s) := k.obtain key
    .ok (k.put key (f s))

/-- A setter on a resource. -/
def changeFor (k : Keyed scheme) (r : Resource) : Change S → Except LimiterError (Keyed scheme)
  | .unused => .ok k
  | .refused e => .error e
  | .apply f => (k.obtainFor r).map fun (k, s) => k.put r.name (f s)

/-- A new limit of a key. -/
def setLimit (k : Keyed scheme) (key : String) (limit : L) (now : Instant) :
    Except LimiterError (Keyed scheme) :=
  k.change key (scheme.setLimit limit now)

/-- A new capacity of a key. -/
def setBurst (k : Keyed scheme) (key : String) (burst : Nat) :
    Except LimiterError (Keyed scheme) :=
  k.change key (scheme.setBurst burst)

/-- A new window of a key. -/
def setWindow (k : Keyed scheme) (key : String) (window : Span) :
    Except LimiterError (Keyed scheme) :=
  k.change key (scheme.setWindow window)

/-- The limit of a resource for its state. -/
def setLimitFor (k : Keyed scheme) (r : Resource) (now : Instant) :
    Except LimiterError (Keyed scheme) :=
  k.changeFor r (scheme.setLimit (scheme.limitOf r.limit) now)

/-- The capacity of a resource for its state. -/
def setBurstFor (k : Keyed scheme) (r : Resource) : Except LimiterError (Keyed scheme) :=
  k.changeFor r (scheme.setBurst r.burst)

/-- The window of a resource for its state. -/
def setWindowFor (k : Keyed scheme) (r : Resource) : Except LimiterError (Keyed scheme) :=
  k.changeFor r (scheme.setWindow r.window)

/-- A state's change shows under its own key only. -/
@[simp] theorem get?_put (k : Keyed scheme) (key key' : String) (s : S) :
    (k.put key s).get? key' = if key = key' then some s else k.get? key' :=
  Registry.get?_put ..

/-- A new limiter has the given parameters and no states. -/
theorem create?_eq_ok {defaults : P} {k : Keyed scheme} (h : create? scheme defaults = .ok k) :
    k.defaults = defaults ∧ k.states = ∅ := by
  unfold create? at h
  split at h
  · cases h
    exact ⟨rfl, rfl⟩
  · cases h

/-- New states by key have valid parameters, and no key has one. -/
theorem valid_of_create? {defaults : P} {k : Keyed scheme} (h : create? scheme defaults = .ok k) :
    scheme.validate defaults = .ok () ∧ ∀ key, k.get? key = none := by
  obtain ⟨rfl, none⟩ := create?_eq_ok h
  exact ⟨k.valid, fun key => by rw [get?, none, Registry.get?_empty]⟩

/-- A new limiter starts every key from its parameters. -/
theorem state_of_create? {defaults : P} {k : Keyed scheme}
    (h : create? scheme defaults = .ok k) (key : String) :
    k.state key = scheme.start defaults := by
  obtain ⟨same, none⟩ := create?_eq_ok h
  rw [state, get?, none, Registry.get?_empty, same, Option.getD_none]

/-- The use of a key gives its state. -/
theorem obtain_snd (k : Keyed scheme) (key : String) : (k.obtain key).2 = k.state key :=
  k.states.obtain_snd key fun _ => scheme.start k.defaults

@[simp] theorem defaults_obtain (k : Keyed scheme) (key : String) :
    (k.obtain key).1.defaults = k.defaults := rfl

@[simp] theorem defaults_put (k : Keyed scheme) (key : String) (s : S) :
    (k.put key s).defaults = k.defaults := rfl

/-- The use of a key changes no state. -/
@[simp] theorem state_obtain (k : Keyed scheme) (key key' : String) :
    (k.obtain key).1.state key' = k.state key' := by
  have found : (k.obtain key).1.get? key' =
      if key = key' then some (k.state key) else k.get? key' :=
    k.states.get?_obtain key key' fun _ => scheme.start k.defaults
  rw [state, found, defaults_obtain]
  split
  · rename_i same
    rw [same, Option.getD_some]
  · rfl

/-- A change shows in the state of its own key only. -/
@[simp] theorem state_put (k : Keyed scheme) (key key' : String) (s : S) :
    (k.put key s).state key' = if key = key' then s else k.state key' := by
  rw [state, get?_put, defaults_put]
  split <;> rfl

/-- A state that is put takes the place of the one that the use of the key started. -/
@[simp] theorem put_obtain (k : Keyed scheme) (key : String) (s : S) :
    (k.obtain key).1.put key s = k.put key s :=
  congrArg (Keyed.mk k.defaults k.valid)
    (k.states.put_obtain key (fun _ => scheme.start k.defaults) s)

/-- A setter that applies changes the state of the key. -/
theorem change_apply (k : Keyed scheme) (key : String) (f : S → S) :
    k.change key (.apply f) = .ok (k.put key (f (k.state key))) := by
  rw [← put_obtain, ← obtain_snd]
  rfl

/-- A limit that passes its check changes the state of the key. -/
theorem setLimit_of_when {check : Except LimiterError Unit} {f : S → S} {limit : L} {now : Instant}
    (sets : scheme.setLimit limit now = .when check f) (passes : check = .ok ()) (k : Keyed scheme)
    (key : String) : k.setLimit key limit now = .ok (k.put key (f (k.state key))) := by
  rw [setLimit, sets, Change.when_of_ok passes, change_apply]

/-- A setter on a key fails only if it refuses its argument. -/
theorem change_eq_error_iff {k : Keyed scheme} {key : String} {c : Change S} {e : LimiterError} :
    k.change key c = .error e ↔ c = .refused e := by
  cases c <;> simp [change]

end Keyed

end Throttle
