import Mathlib.Algebra.Order.BigOperators.Group.List
import Mathlib.Algebra.Order.Ring.Nat
import Throttle.Window.Log

/-!
# Records in a window

Records are accepted requests with their units, the oldest acceptance first. A limiter that counts
records in a trailing window looks at one window for every request, the one that ends with the
request. This bounds the records of every other window of that length as well.

## Main definitions

* `SlidingLog.within`, `SlidingLog.unitsWithin`: the records between two instants, and their units
* `SlidingLog.Spaced limit length records`: every record found less than the limit in the window
  that it ends

## Main results

* `SlidingLog.Spaced.unitsWithin_le`: a window holds at most the limit, less one, and the units of
  one request
* `SlidingLog.Spaced.length_within_le`: at most the limit if every request has one unit
-/

namespace Throttle

namespace SlidingLog

/-- The records between two instants, both included. -/
def within (records : List (Instant × Nat)) (left right : Instant) : List (Instant × Nat) :=
  records.filter fun e => Decidable.decide (left ≤ e.1) && Decidable.decide (e.1 ≤ right)

/-- The units of the records between two instants, both included. -/
def unitsWithin (records : List (Instant × Nat)) (left right : Instant) : Nat :=
  units (within records left right)

/-- The records that are not older than `left`. -/
def since (left : Instant) (records : List (Instant × Nat)) : List (Instant × Nat) :=
  records.filter fun e => Decidable.decide (left ≤ e.1)

theorem count_eq_unitsWithin (l : SlidingLog) (left right : Instant) :
    l.count left right = unitsWithin l.accepted left right := rfl

theorem accepted_forget (l : SlidingLog) (left : Instant) :
    (l.forget left).accepted = since left l.accepted := rfl

@[simp] theorem units_nil : units [] = 0 := rfl

@[simp] theorem units_singleton (e : Instant × Nat) : units [e] = e.2 := rfl

theorem units_eq_sum (records : List (Instant × Nat)) :
    units records = (records.map Prod.snd).sum := by
  rw [units, List.sum, List.foldr_map]

@[simp] theorem units_append (records more : List (Instant × Nat)) :
    units (records ++ more) = units records + units more := by
  simp [units_eq_sum]

theorem units_le_of_sublist {records more : List (Instant × Nat)} (h : records.Sublist more) :
    units records ≤ units more := by
  rw [units_eq_sum, units_eq_sum]
  exact (h.map Prod.snd).sum_le_sum fun _ _ => Nat.zero_le _

theorem unitsWithin_le_units (records : List (Instant × Nat)) (left right : Instant) :
    unitsWithin records left right ≤ units records :=
  units_le_of_sublist List.filter_sublist

/-- Records of one unit each hold as many units as there are of them. -/
theorem units_eq_length {records : List (Instant × Nat)} (single : ∀ e ∈ records, e.2 = 1) :
    units records = records.length := by
  have ones : records.map Prod.snd = records.map fun _ => 1 := List.map_congr_left single
  rw [units_eq_sum, ones]
  simp

theorem unitsWithin_eq_length {records : List (Instant × Nat)} (single : ∀ e ∈ records, e.2 = 1)
    (left right : Instant) :
    unitsWithin records left right = (within records left right).length :=
  units_eq_length fun e member => single e (List.mem_filter.1 member).1

/-- A longer window holds no fewer units. -/
theorem unitsWithin_mono (records : List (Instant × Nat)) {left left' right right' : Instant}
    (hl : left ≤ left') (hr : right' ≤ right) :
    unitsWithin records left' right' ≤ unitsWithin records left right := by
  refine units_le_of_sublist (List.monotone_filter_right records fun e inside => ?_)
  simp only [Bool.and_eq_true, decide_eq_true_eq, Instant.le_def] at hl hr inside ⊢
  omega

theorem within_append (records more : List (Instant × Nat)) (left right : Instant) :
    within (records ++ more) left right = within records left right ++ within more left right :=
  List.filter_append ..

theorem unitsWithin_append (records more : List (Instant × Nat)) (left right : Instant) :
    unitsWithin (records ++ more) left right =
      unitsWithin records left right + unitsWithin more left right := by
  rw [unitsWithin, within_append, units_append]
  rfl

theorem unitsWithin_singleton (e : Instant × Nat) (left right : Instant) :
    unitsWithin [e] left right = if left ≤ e.1 ∧ e.1 ≤ right then e.2 else 0 := by
  simp only [unitsWithin, within, ← Bool.decide_and, List.filter_cons, List.filter_nil]
  by_cases h : left ≤ e.1 ∧ e.1 ≤ right <;> simp [h]

/-- A count depends only on the records that are not older than its left boundary. -/
theorem within_since (records : List (Instant × Nat)) (left right : Instant) :
    within (since left records) left right = within records left right := by
  simp only [within, since, List.filter_filter]
  congr 1
  funext e
  cases Decidable.decide (left ≤ e.1) <;> simp

/-- A window that ends with the latest record holds what is not older than its left boundary. -/
theorem within_of_le {records : List (Instant × Nat)} {now : Instant}
    (ordered : ∀ e ∈ records, e.1 ≤ now) (left : Instant) :
    within records left now = since left records := by
  refine List.filter_congr fun e member => ?_
  rw [decide_eq_true (ordered e member), Bool.and_true]

theorem since_since {left left' : Instant} (h : left ≤ left') (records : List (Instant × Nat)) :
    since left' (since left records) = since left' records := by
  simp only [since, List.filter_filter]
  congr 1
  funext e
  rw [Instant.le_def] at h
  by_cases later : left' ≤ e.1
  · rw [Instant.le_def] at later
    have : left ≤ e.1 := Instant.le_def.2 (by omega)
    simp [this]
  · simp [later]

theorem since_append (left : Instant) (records more : List (Instant × Nat)) :
    since left (records ++ more) = since left records ++ since left more :=
  List.filter_append ..

/-! ## Every window at once -/

/-- Records in the order of time, each of which found less than `limit` units in the window of
`length` nanoseconds that it ends. -/
inductive Spaced (limit : Nat) (length : Int) : List (Instant × Nat) → Prop where
  | nil : Spaced limit length []
  /-- One more record, which is not older than the others. -/
  | snoc {records : List (Instant × Nat)} {now : Instant} (n : Nat)
      (earlier : Spaced limit length records) (ordered : ∀ e ∈ records, e.1 ≤ now)
      (free : unitsWithin records ⟨now.nanos - length⟩ now < limit) :
      Spaced limit length (records ++ [(now, n)])

namespace Spaced

variable {limit : Nat} {length : Int} {records : List (Instant × Nat)}

/-- A window that a later record still reaches is part of the window that this record ends. -/
theorem within_sublist {now left right : Instant} (ordered : ∀ e ∈ records, e.1 ≤ now)
    (short : right.nanos ≤ left.nanos + length) (reached : now ≤ right) :
    (within records left right).Sublist (within records ⟨now.nanos - length⟩ now) := by
  have part : within records left right =
      (within records ⟨now.nanos - length⟩ now).filter
        fun e => Decidable.decide (left ≤ e.1) && Decidable.decide (e.1 ≤ right) := by
    rw [within, within, List.filter_filter]
    refine List.filter_congr fun e member => ?_
    -- A record in the one window is not newer than `now`, and less than the length older than it.
    have before := ordered e member
    rw [Instant.le_def] at before reached
    rw [Bool.eq_iff_iff]
    simp only [Bool.and_eq_true, decide_eq_true_eq, Instant.le_def]
    omega
  rw [part]
  exact List.filter_sublist

/-- **Every window is bounded.** A closed window of the length that the records were counted in
holds at most the limit, less one, and the units of one request. -/
theorem unitsWithin_le (h : Spaced limit length records) {most : Nat}
    (light : ∀ e ∈ records, e.2 ≤ most) {left right : Instant}
    (short : right.nanos ≤ left.nanos + length) :
    unitsWithin records left right ≤ limit - 1 + most := by
  induction h with
  | nil => exact Nat.zero_le _
  | @snoc records now n _ ordered free ih =>
    have lightBefore : ∀ e ∈ records, e.2 ≤ most := fun e member =>
      light e (List.mem_append_left _ member)
    have lightLast : n ≤ most := light (now, n) (by simp)
    rw [unitsWithin_append, unitsWithin_singleton]
    split
    · rename_i inside
      -- The window holds the last record, so that the others in it found it less than full.
      have before := units_le_of_sublist (within_sublist ordered short inside.2)
      change unitsWithin records left right ≤ unitsWithin records _ now at before
      omega
    -- The window does not hold the last record, and it held all of its own before.
    · exact ih lightBefore

/-- A window of records of one unit each holds at most as many of them as the limit. -/
theorem length_within_le (h : Spaced limit length records) (single : ∀ e ∈ records, e.2 = 1)
    {left right : Instant} (short : right.nanos ≤ left.nanos + length) :
    (within records left right).length ≤ limit := by
  have bounded := h.unitsWithin_le (fun e member => le_of_eq (single e member)) short
  rw [unitsWithin_eq_length single] at bounded
  rcases Nat.eq_zero_or_pos limit with none | positive
  · -- A limit of zero lets no record in.
    subst none
    cases h with
    | nil => exact Nat.le_refl 0
    | snoc _ _ _ free => exact absurd free (Nat.not_lt_zero _)
  · omega

end Spaced

end SlidingLog

end Throttle
