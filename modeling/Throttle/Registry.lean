import Throttle.Table

/-!
# Registries

A registry holds one value per key and makes it when the key is first used. The first value made
for a key stays: later calls for the key return it and make nothing.

## Main definitions

* `Registry V`: values of type `V`, one per key
* `Registry.settle r k fresh`: the value of a key once one has been made for it
* `Registry.obtain r k make`: the value of a key, made if the key is new
* `Registry.tryObtain r k make`: the same for a maker that can fail
* `Registry.put r k v`: the registry after the value of a key has changed

## Main results

* `Registry.get?_settle`: a value that came before stays
* `Registry.size_settle`: a value that is made adds a key only when the key is new
* `Registry.get?_obtain`: a key's value is the one that was there, or else the one made
* `Registry.tryObtain_error_iff`: only a failing maker of a new key fails
-/

namespace Throttle

/-- Values of type `V`, one per key that has been used. -/
structure Registry (V : Type) where
  table : Table V
deriving DecidableEq

namespace Registry

variable {V : Type}

/-- The registry in which no key has been used. -/
def empty : Registry V := ⟨∅⟩

instance : EmptyCollection (Registry V) := ⟨empty⟩

instance : Inhabited (Registry V) := ⟨empty⟩

/-- The value of a key, if the key has been used. -/
def get? (r : Registry V) (k : String) : Option V := r.table.get? k

/-- The number of keys that have been used. -/
def size (r : Registry V) : Nat := r.table.size

/-- Whether no key has been used. -/
def isEmpty (r : Registry V) : Bool := r.table.isEmpty

/-- The registry in which the key has the given value. -/
def put (r : Registry V) (k : String) (v : V) : Registry V := ⟨r.table.insert k v⟩

/-- The value of a key once `fresh` has been made for it: a value that came before stays. -/
def settle (r : Registry V) (k : String) (fresh : V) : Registry V × V :=
  match r.get? k with
  | some v => (r, v)
  | none => (r.put k fresh, fresh)

/-- The value of a key, made if the key is new. -/
def obtain (r : Registry V) (k : String) (make : Unit → V) : Registry V × V :=
  match r.get? k with
  | some v => (r, v)
  | none => r.settle k (make ())

/-- The value of a key, made if the key is new; a maker that fails leaves the registry as it
is. -/
def tryObtain {ε : Type} (r : Registry V) (k : String) (make : Unit → Except ε V) :
    Except ε (Registry V × V) :=
  match r.get? k with
  | some v => .ok (r, v)
  | none => (make ()).map (r.settle k)

@[simp] theorem get?_empty (k : String) : (∅ : Registry V).get? k = none := rfl

@[simp] theorem get?_put (r : Registry V) (k k' : String) (v : V) :
    (r.put k v).get? k' = if k = k' then some v else r.get? k' :=
  Table.get?_insert ..

/-- A value that came before stays. -/
theorem get?_settle (r : Registry V) (k k' : String) (fresh : V) :
    (r.settle k fresh).1.get? k' =
      if k = k' then some ((r.get? k).getD fresh) else r.get? k' := by
  unfold settle
  by_cases hk : k = k'
  · subst hk
    cases h : r.get? k <;> simp [h]
  · cases h : r.get? k <;> simp [hk]

/-- The value that a key gives is the one that it keeps. -/
theorem get?_settle_self (r : Registry V) (k : String) (fresh : V) :
    (r.settle k fresh).1.get? k = some (r.settle k fresh).2 := by
  unfold settle
  cases h : r.get? k with
  | some v => exact h
  | none => simp

/-- A value that is made adds a key only when the key is new. -/
theorem size_settle (r : Registry V) (k : String) (fresh : V) :
    (r.settle k fresh).1.size = if (r.get? k).isSome then r.size else r.size + 1 := by
  unfold settle
  cases h : r.get? k with
  | some v => rfl
  | none =>
    have absent : r.table.contains k = false := by
      rw [Table.contains]
      exact congrArg Option.isSome h
    exact (Table.size_insert ..).trans (by rw [absent]; rfl)

/-- A key's value is the one that was there, or else the one made. -/
theorem get?_obtain (r : Registry V) (k k' : String) (make : Unit → V) :
    (r.obtain k make).1.get? k' =
      if k = k' then some ((r.get? k).getD (make ())) else r.get? k' := by
  unfold obtain
  cases h : r.get? k with
  | some v =>
    by_cases hk : k = k'
    · subst hk
      simp [h]
    · simp [hk]
  | none => simp only [get?_settle, h]

/-- The value that a key gives is the one that it keeps. -/
theorem obtain_snd (r : Registry V) (k : String) (make : Unit → V) :
    (r.obtain k make).2 = (r.get? k).getD (make ()) := by
  unfold obtain
  cases h : r.get? k with
  | some v => rfl
  | none => simp [settle, h]

/-- A value that is put takes the place of the one made. -/
@[simp] theorem put_obtain (r : Registry V) (k : String) (make : Unit → V) (v : V) :
    (r.obtain k make).1.put k v = r.put k v := by
  unfold obtain
  cases h : r.get? k with
  | some w => rfl
  | none => simp [settle, h, put]

/-- Only a failing maker of a new key fails. -/
theorem tryObtain_error_iff {ε : Type} {r : Registry V} {k : String}
    {make : Unit → Except ε V} {e : ε} :
    r.tryObtain k make = .error e ↔ r.get? k = none ∧ make () = .error e := by
  unfold tryObtain
  cases h : r.get? k with
  | some v => simp
  | none => cases hm : make () <;> simp [Except.map]

/-- A maker that cannot fail makes no difference. -/
theorem tryObtain_ok {ε : Type} (r : Registry V) (k : String) (make : Unit → V) :
    r.tryObtain k (fun u => Except.ok (ε := ε) (make u)) = .ok (r.obtain k make) := by
  unfold tryObtain obtain
  cases r.get? k <;> rfl

end Registry

end Throttle
