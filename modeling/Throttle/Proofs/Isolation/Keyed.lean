import Mathlib.Data.Set.Function
import Throttle.Limiter.Local

/-!
# Operations on one key

Every operation of a limiter is about one key: it reads the limiter's own parameters and the state
of the key, and it changes no other state. So states by key that agree on some keys answer alike
for each of these, and an operation on a key does not show under another.

## Main definitions

* `Related r`: two results that are the same error, or values that `r` relates
* `Keyed.AgreeOn keys`: states by key with the same parameters that agree on some keys
* `Keyed.Confined key`: an operation that reads and changes the state of one key only

## Main results

* `Keyed.Confined.related`: a confined operation keeps the agreement on keys that include its own,
  and changes nothing under the other keys
* `Keyed.confined_allow`, `Keyed.confined_check`, `Keyed.confined_change`,
  `Keyed.confined_changeFor`: requests and setters are confined
-/

namespace Throttle

/-! ## Related results -/

/-- Two results that are the same error, or values that are related. -/
inductive Related {ε β γ : Type} (r : β → γ → Prop) : Except ε β → Except ε γ → Prop where
  | ok {b : β} {c : γ} (related : r b c) : Related r (.ok b) (.ok c)
  | error (e : ε) : Related r (.error e) (.error e)

namespace Related

variable {ε β γ β' γ' : Type} {r : β → γ → Prop} {q : β' → γ' → Prop}

theorem mono {r' : β → γ → Prop} {x : Except ε β} {y : Except ε γ} (h : Related r x y)
    (step : ∀ b c, r b c → r' b c) : Related r' x y := by
  cases h with
  | ok related => exact .ok (step _ _ related)
  | error e => exact .error e

theorem map {x : Except ε β} {y : Except ε γ} {f : β → β'} {g : γ → γ'} (h : Related r x y)
    (step : ∀ b c, r b c → q (f b) (g c)) : Related q (x.map f) (y.map g) := by
  cases h with
  | ok related => exact .ok (step _ _ related)
  | error e => exact .error e

theorem of_map {x : Except ε β} {y : Except ε γ} {f : β → β'} {g : γ → γ'}
    (h : Related q (x.map f) (y.map g)) : Related (fun b c => q (f b) (g c)) x y := by
  cases x with
  | ok b =>
    cases y with
    | ok c =>
      cases h with
      | ok related => exact .ok related
    | error e => cases h
  | error e =>
    cases y with
    | ok c => cases h
    | error e' =>
      cases h
      exact .error e

theorem bind {x : Except ε β} {y : Except ε γ} {f : β → Except ε β'} {g : γ → Except ε γ'}
    (h : Related r x y) (step : ∀ b c, r b c → Related q (f b) (g c)) :
    Related q (x >>= f) (y >>= g) := by
  cases h with
  | ok related => exact step _ _ related
  | error e => exact .error e

/-- The same computation goes on with the same value. -/
theorem bind_same (x : Except ε β) {f : β → Except ε β'} {g : β → Except ε γ'}
    (step : ∀ b, Related q (f b) (g b)) : Related q (x >>= f) (x >>= g) := by
  cases x with
  | ok b => exact step b
  | error e => exact .error e

/-- What is related to a value is a value. -/
theorem exists_of_eq_ok {x : Except ε β} {y : Except ε γ} {b : β} (h : Related r x y)
    (value : x = .ok b) : ∃ c, y = .ok c ∧ r b c := by
  cases h with
  | ok related =>
    cases value
    exact ⟨_, rfl, related⟩
  | error e => cases value

end Related

/-! ## States by key -/

/-- The state with which a resource is used, given the one that its key has. -/
def Scheme.stateOf? {P S L : Type} (scheme : Scheme P S L) (defaults : P) (r : Resource) :
    Option S → Except LimiterError S
  | some s => .ok s
  | none =>
    let params := scheme.ofResource defaults r
    (scheme.validate params).map fun _ => scheme.start params

/-- What a request by key makes of the state of its key. -/
def Scheme.allowAt {P S L : Type} (scheme : Scheme P S L)
    (decide : S → Except Fault (S × Except LimiterError Bool)) (defaults : P) (s : Option S) :
    Except Fault (Option S × Except LimiterError Bool) :=
  (decide (s.getD (scheme.start defaults))).map fun (s, outcome) => (some s, outcome)

/-- What a request by resource makes of the state of its key. -/
def Scheme.checkAt {P S L : Type} (scheme : Scheme P S L)
    (decide : S → Except Fault (S × Except LimiterError Bool)) (r : Resource) (defaults : P)
    (s : Option S) : Except Fault (Option S × Except LimiterError Bool) :=
  match scheme.stateOf? defaults r s with
  | .error e => .ok (none, .error e)
  | .ok s => (decide s).map fun (s, outcome) => (some s, outcome)

namespace Keyed

variable {P S L : Type} {scheme : Scheme P S L}

/-- The parameters are the same, and so are the states of some keys. -/
structure AgreeOn (keys : Set String) (k k' : Keyed scheme) : Prop where
  defaults : k.defaults = k'.defaults
  states : Set.EqOn k.get? k'.get? keys

namespace AgreeOn

variable {keys keys' : Set String} {k k' k'' : Keyed scheme}

theorem refl (keys : Set String) (k : Keyed scheme) : k.AgreeOn keys k :=
  ⟨rfl, Set.eqOn_refl ..⟩

theorem symm (h : k.AgreeOn keys k') : k'.AgreeOn keys k := ⟨h.defaults.symm, h.states.symm⟩

theorem trans (h : k.AgreeOn keys k') (h' : k'.AgreeOn keys k'') : k.AgreeOn keys k'' :=
  ⟨h.defaults.trans h'.defaults, h.states.trans h'.states⟩

theorem mono (h : k.AgreeOn keys k') (sub : keys' ⊆ keys) : k.AgreeOn keys' k' :=
  ⟨h.defaults, h.states.mono sub⟩

/-- States that agree still do so with one more state in common. -/
theorem put (h : k.AgreeOn keys k') (key : String) (s : S) :
    (k.put key s).AgreeOn keys (k'.put key s) where
  defaults := h.defaults
  states other member := by rw [get?_put, get?_put, h.states member]

end AgreeOn

/-- A change shows under its own key only. -/
theorem agreeOn_put (k : Keyed scheme) (key : String) (s : S) :
    k.AgreeOn {key}ᶜ (k.put key s) where
  defaults := rfl
  states other different := by
    rw [get?_put, if_neg]
    exact fun same => different same.symm

/-- A state that a key has can be put there. -/
theorem put_self {k : Keyed scheme} {key : String} {s : S} (h : k.get? key = some s) :
    k.put key s = k := by
  have same : k.states.put key s = k.states :=
    congrArg Registry.mk (Table.insert_self (t := k.states.table) h)
  rw [put, same]

/-- Of two states that are put under a key the second one stays. -/
theorem put_put (k : Keyed scheme) (key : String) (s t : S) :
    (k.put key s).put key t = k.put key t :=
  congrArg (fun table => Keyed.mk k.defaults k.valid ⟨table⟩) (Table.insert_insert ..)

/-- The use of a key puts its state there. -/
theorem obtain_eq (k : Keyed scheme) (key : String) :
    k.obtain key = (k.put key (k.state key), k.state key) := by
  have held : (k.obtain key).1.get? key = some (k.state key) :=
    (k.states.get?_obtain key key fun _ => scheme.start k.defaults).trans (if_pos rfl)
  have first := put_self held
  rw [put_obtain] at first
  exact Prod.ext first.symm (k.obtain_snd key)

/-- The use of a resource puts its state under the key, if the resource can start it. -/
theorem obtainFor_eq (k : Keyed scheme) (r : Resource) :
    k.obtainFor r = (scheme.stateOf? k.defaults r (k.get? r.name)).map fun s =>
      (k.put r.name s, s) := by
  rw [obtainFor, Registry.tryObtain]
  cases held : k.get? r.name with
  | some s =>
    rw [show k.states.get? r.name = some s from held]
    simp only [Scheme.stateOf?, Except.map, put_self held]
  | none =>
    rw [show k.states.get? r.name = none from held, Scheme.stateOf?]
    cases scheme.validate (scheme.ofResource k.defaults r) with
    | ok => simp only [Except.map, Registry.settle, show k.states.get? r.name = none from held, put]
    | error e => rfl

end Keyed

/-! ## Confined operations -/

namespace Keyed

variable {P S L ε β : Type} {scheme : Scheme P S L}

/-- The states in which a key has a new state, or is left alone. -/
def write (k : Keyed scheme) (key : String) : Option S → Keyed scheme
  | some s => k.put key s
  | none => k

/-- An operation is confined to a key: what it does is determined by the limiter's own parameters
and the state of the key, and it changes no other state. -/
def Confined (key : String) (f : Keyed scheme → Except ε (Keyed scheme × β)) : Prop :=
  ∃ g : P → Option S → Except ε (Option S × β), ∀ k,
    f k = (g k.defaults (k.get? key)).map fun (s, answer) => (k.write key s, answer)

/-- A setter is confined to a key. -/
def ConfinedSetter (key : String) (f : Keyed scheme → Except LimiterError (Keyed scheme)) : Prop :=
  Confined key fun k => (f k).map fun k => (k, ())

/-- **A confined operation keeps the agreement** on keys that include its own, gives the same
answer, and changes nothing under the other keys. -/
theorem Confined.related {key : String} {f : Keyed scheme → Except ε (Keyed scheme × β)}
    (confined : Confined key f) {keys : Set String} (own : key ∈ keys) {k k' : Keyed scheme}
    (agree : k.AgreeOn keys k') :
    Related (fun x y => x.2 = y.2 ∧ x.1.AgreeOn keys y.1 ∧ k.AgreeOn {key}ᶜ x.1) (f k) (f k') := by
  obtain ⟨g, does⟩ := confined
  rw [does k, does k', ← agree.defaults, ← agree.states own]
  cases g k.defaults (k.get? key) with
  | error e => exact .error e
  | ok result =>
    -- The operation has left the state of its key alone, or put the same one there on both sides.
    obtain ⟨_ | s, answer⟩ := result
    · exact .ok ⟨rfl, agree, .refl ..⟩
    · exact .ok ⟨rfl, agree.put key s, agreeOn_put k key s⟩

theorem ConfinedSetter.related {key : String}
    {f : Keyed scheme → Except LimiterError (Keyed scheme)} (confined : ConfinedSetter key f)
    {keys : Set String} (own : key ∈ keys) {k k' : Keyed scheme} (agree : k.AgreeOn keys k') :
    Related (fun x y => x.AgreeOn keys y ∧ k.AgreeOn {key}ᶜ x) (f k) (f k') :=
  (Confined.related confined own agree).of_map.mono fun _ _ h => h.2

/-- The use of a key is confined to it. -/
theorem confined_obtain (key : String) :
    Confined (ε := LimiterError) key fun k : Keyed scheme => .ok (k.obtain key) :=
  ⟨fun defaults s =>
    let s := s.getD (scheme.start defaults)
    .ok (some s, s), fun k => congrArg Except.ok (k.obtain_eq key)⟩

/-- The use of a resource is confined to its key. -/
theorem confined_obtainFor (r : Resource) :
    Confined r.name fun k : Keyed scheme => k.obtainFor r := by
  refine ⟨fun defaults s => (scheme.stateOf? defaults r s).map fun s => (some s, s), fun k => ?_⟩
  dsimp only
  rw [obtainFor_eq]
  cases scheme.stateOf? k.defaults r (k.get? r.name) <;> rfl

/-- A request by key is confined to it. -/
theorem confined_allow (decide : S → Except Fault (S × Except LimiterError Bool)) (key : String) :
    Confined key fun k : Keyed scheme => k.allow decide key := by
  refine ⟨scheme.allowAt decide, fun k => ?_⟩
  dsimp only
  rw [allow_eq, state, Scheme.allowAt]
  cases decide ((k.get? key).getD (scheme.start k.defaults)) <;> rfl

/-- A request by resource is confined to its key. -/
theorem confined_check (decide : S → Except Fault (S × Except LimiterError Bool)) (r : Resource) :
    Confined r.name fun k : Keyed scheme => k.check decide r := by
  refine ⟨scheme.checkAt decide r, fun k => ?_⟩
  dsimp only
  rw [check, obtainFor_eq, Scheme.checkAt]
  cases scheme.stateOf? k.defaults r (k.get? r.name) with
  | error e => rfl
  | ok s =>
    simp only [Except.map, put_put]
    cases decide s <;> rfl

/-- A setter on a key is confined to it. -/
theorem confined_change (key : String) (c : Change S) :
    ConfinedSetter key fun k : Keyed scheme => k.change key c := by
  cases c with
  | unused => exact ⟨fun _ _ => .ok (none, ()), fun _ => rfl⟩
  | refused e => exact ⟨fun _ _ => .error e, fun _ => rfl⟩
  | apply f =>
    refine ⟨fun defaults s => .ok (some (f (s.getD (scheme.start defaults))), ()), fun k => ?_⟩
    dsimp only
    rw [change_apply]
    rfl

/-- A setter on a resource is confined to its key. -/
theorem confined_changeFor (r : Resource) (c : Change S) :
    ConfinedSetter r.name fun k : Keyed scheme => k.changeFor r c := by
  cases c with
  | unused => exact ⟨fun _ _ => .ok (none, ()), fun _ => rfl⟩
  | refused e => exact ⟨fun _ _ => .error e, fun _ => rfl⟩
  | apply f =>
    refine ⟨fun defaults s => (scheme.stateOf? defaults r s).map fun s => (some (f s), ()),
      fun k => ?_⟩
    dsimp only
    rw [changeFor, obtainFor_eq]
    cases scheme.stateOf? k.defaults r (k.get? r.name) with
    | error e => rfl
    | ok s => simp only [Except.map, put_put, write]

end Keyed

end Throttle
