/-!
# Tables

A table is a finite map from names to values. It keeps its entries in the order in which their
names first appeared, and no name twice.

## Main definitions

* `Table V`: tables of values of type `V`
* `Table.get? t k`: the value under the name `k`
* `Table.insert t k v`: the table with `v` under `k`
* `Table.erase t k`, `Table.filter p t`: tables with fewer names

## Main results

* `Table.get?_insert`, `Table.get?_erase`, `Table.get?_filter`: what each operation does to the
  view `get?`
* `Table.size_insert`: an insertion adds a name only when the name is new
-/

namespace Throttle

/-- A finite map from names to values; `distinct` says that no name occurs twice. -/
structure Table (V : Type) where
  /-- The entries, by first appearance of their names. -/
  entries : List (String × V)
  distinct : (entries.map Prod.fst).Nodup
deriving DecidableEq

namespace Table

variable {V : Type}

/-- The value of the first entry named `k`. -/
def find? (k : String) : List (String × V) → Option V
  | [] => none
  | (name, v) :: rest => if name = k then some v else find? k rest

/-- The entries with the value `v` under the name `k`: in place if `k` is there, at the end if it
is new. -/
def put (k : String) (v : V) : List (String × V) → List (String × V)
  | [] => [(k, v)]
  | (name, w) :: rest => if name = k then (k, v) :: rest else (name, w) :: put k v rest

theorem mem_map_fst_put {k name : String} {v : V} {l : List (String × V)} :
    name ∈ (put k v l).map Prod.fst ↔ name = k ∨ name ∈ l.map Prod.fst := by
  induction l with
  | nil => simp [put]
  | cons e rest ih =>
    obtain ⟨n, w⟩ := e
    by_cases h : n = k
    · subst h; simp [put]
    · simp only [put, h, if_false, List.map_cons, List.mem_cons, ih]
      grind

theorem nodup_put {k : String} {v : V} {l : List (String × V)}
    (h : (l.map Prod.fst).Nodup) : ((put k v l).map Prod.fst).Nodup := by
  induction l with
  | nil => simp [put]
  | cons e rest ih =>
    obtain ⟨n, w⟩ := e
    simp only [List.map_cons, List.nodup_cons] at h
    by_cases hk : n = k
    · subst hk; simpa [put] using h
    · simp only [put, hk, if_false, List.map_cons, List.nodup_cons]
      refine ⟨fun hm => ?_, ih h.2⟩
      rcases mem_map_fst_put.1 hm with hn | hn
      · exact hk hn
      · exact h.1 hn

theorem nodup_filter (p : String × V → Bool) {l : List (String × V)}
    (h : (l.map Prod.fst).Nodup) : ((l.filter p).map Prod.fst).Nodup :=
  h.sublist (List.filter_sublist.map Prod.fst)

/-- The table without entries. -/
def empty : Table V := ⟨[], List.nodup_nil⟩

instance : EmptyCollection (Table V) := ⟨empty⟩

instance : Inhabited (Table V) := ⟨empty⟩

/-- The value under the name `k`. -/
def get? (t : Table V) (k : String) : Option V := find? k t.entries

/-- Whether the table has the name `k`. -/
def contains (t : Table V) (k : String) : Bool := (t.get? k).isSome

/-- The table with `v` under the name `k`. -/
def insert (t : Table V) (k : String) (v : V) : Table V :=
  ⟨put k v t.entries, nodup_put t.distinct⟩

/-- The entries that satisfy `p`. -/
def filter (p : String → V → Bool) (t : Table V) : Table V :=
  ⟨t.entries.filter fun e => p e.1 e.2, nodup_filter _ t.distinct⟩

/-- The table without the name `k`. -/
def erase (t : Table V) (k : String) : Table V := t.filter fun name _ => name != k

/-- The number of names. -/
def size (t : Table V) : Nat := t.entries.length

/-- Whether there is no name. -/
def isEmpty (t : Table V) : Bool := t.entries.isEmpty

/-- The names, by first appearance. -/
def keys (t : Table V) : List String := t.entries.map Prod.fst

@[simp] theorem get?_empty (k : String) : (∅ : Table V).get? k = none := rfl

/-- A table without names has no values. -/
theorem get?_of_isEmpty {t : Table V} (h : t.isEmpty = true) (k : String) : t.get? k = none := by
  rw [get?, List.isEmpty_iff.1 h, find?]

theorem find?_put (k k' : String) (v : V) (l : List (String × V)) :
    find? k' (put k v l) = if k = k' then some v else find? k' l := by
  induction l with
  | nil => simp [put, find?]
  | cons e rest ih =>
    obtain ⟨n, w⟩ := e
    by_cases hk : n = k
    · subst hk
      by_cases hk' : n = k' <;> simp [put, find?, hk']
    · by_cases hk' : n = k'
      · subst hk'; simp [put, find?, hk, Ne.symm hk]
      · simp [put, find?, hk, hk', ih]

/-- An insertion shows under its own name only. -/
@[simp] theorem get?_insert (t : Table V) (k k' : String) (v : V) :
    (t.insert k v).get? k' = if k = k' then some v else t.get? k' :=
  find?_put k k' v t.entries

theorem put_put (k : String) (v w : V) (l : List (String × V)) :
    put k w (put k v l) = put k w l := by
  induction l with
  | nil => simp [put]
  | cons e rest ih =>
    obtain ⟨n, u⟩ := e
    by_cases hk : n = k
    · simp [put, hk]
    · simp [put, hk, ih]

/-- A later insertion under a name takes the place of an earlier one. -/
@[simp] theorem insert_insert (t : Table V) (k : String) (v w : V) :
    (t.insert k v).insert k w = t.insert k w := by
  simp only [insert, put_put]

theorem put_self {k : String} {v : V} {l : List (String × V)} (h : find? k l = some v) :
    put k v l = l := by
  induction l with
  | nil => cases h
  | cons e rest ih =>
    obtain ⟨n, w⟩ := e
    by_cases hk : n = k
    · simp_all [put, find?]
    · simp_all [put, find?]

/-- To insert what is there changes nothing. -/
theorem insert_self {t : Table V} {k : String} {v : V} (h : t.get? k = some v) :
    t.insert k v = t := by
  obtain ⟨entries, distinct⟩ := t
  simp only [insert, put_self h]

theorem find?_eq_none {k : String} {l : List (String × V)} (h : k ∉ l.map Prod.fst) :
    find? k l = none := by
  induction l with
  | nil => rfl
  | cons e rest ih => simp only [List.map_cons, List.mem_cons, not_or] at h; grind [find?]

theorem find?_filter (p : String → V → Bool) (k : String) {l : List (String × V)}
    (h : (l.map Prod.fst).Nodup) :
    find? k (l.filter fun e => p e.1 e.2) = (find? k l).filter (p k) := by
  induction l with
  | nil => rfl
  | cons e rest ih =>
    obtain ⟨n, w⟩ := e
    simp only [List.map_cons, List.nodup_cons] at h
    by_cases hk : n = k
    · subst hk
      by_cases hp : p n w
      · simp [find?, hp, Option.filter]
      · have hn : find? n (rest.filter fun e => p e.1 e.2) = none :=
          find?_eq_none fun hm => h.1 ((List.filter_sublist.map Prod.fst).mem hm)
        simp [find?, hp, hn, Option.filter]
    · by_cases hp : p n w <;> simp [find?, hp, hk, ih h.2]

/-- A filter keeps a name's value if it satisfies `p`. -/
@[simp] theorem get?_filter (p : String → V → Bool) (t : Table V) (k : String) :
    (t.filter p).get? k = (t.get? k).filter (p k) :=
  find?_filter p k t.distinct

/-- Erasing a name hides that name only. -/
@[simp] theorem get?_erase (t : Table V) (k k' : String) :
    (t.erase k).get? k' = if k = k' then none else t.get? k' := by
  rw [erase, get?_filter]
  by_cases h : k = k'
  · subst h; cases t.get? k <;> simp [Option.filter]
  · cases t.get? k' <;> simp [Option.filter, h, Ne.symm h]

theorem filter_put (k : String) (v : V) (l : List (String × V)) :
    (put k v l).filter (fun e => e.1 != k) = l.filter fun e => e.1 != k := by
  induction l with
  | nil => simp [put]
  | cons e rest ih =>
    obtain ⟨n, w⟩ := e
    by_cases hk : n = k <;> simp [put, hk, ih]

/-- What is inserted and erased leaves no trace. -/
theorem erase_insert (t : Table V) (k : String) (v : V) : (t.insert k v).erase k = t.erase k := by
  simp only [erase, filter, insert, filter_put]

theorem length_put (k : String) (v : V) (l : List (String × V)) :
    (put k v l).length = if (find? k l).isSome then l.length else l.length + 1 := by
  induction l with
  | nil => simp [put, find?]
  | cons e rest ih =>
    obtain ⟨n, w⟩ := e
    by_cases hk : n = k
    · simp [put, find?, hk]
    · simp only [put, find?, hk, if_false, List.length_cons, ih]
      split <;> simp

/-- An insertion adds a name only when the name is new. -/
theorem size_insert (t : Table V) (k : String) (v : V) :
    (t.insert k v).size = if t.contains k then t.size else t.size + 1 :=
  length_put k v t.entries

end Table

end Throttle
