import Throttle.Proofs.Arithmetic.Exact

/-!
# Rounded arithmetic

The rules of the buckets are run with doubles, whose results are rounded and may be infinite. What
is said here of an arithmetic holds of doubles as well as of rational numbers: whole numbers compare
with zero and with themselves as they should, and the rounding of a result does not carry it to the
other side of zero, or a sum below a whole number to which something was added. This suffices to see
that a full bucket stays full and that a dry one stays dry.

## Main definitions

* `Arithmetic.Rounding`: an arithmetic that may round its results

## Main results

* `Arithmetic.lesser_natCast_add`: what is full stays full
* `Arithmetic.greater_zero_sub`: what is dry stays dry
-/

namespace Throttle

namespace Arithmetic

/-- An arithmetic that may round its results, but keeps the sign of what is gained or drained. -/
class Rounding (α : Type) [Arithmetic α] : Prop where
  natCast_le_self : ∀ n : ℕ, (n : α) ≤ (n : α)
  natCast_nonneg : ∀ n : ℕ, ((0 : ℕ) : α) ≤ (n : α)
  natCast_pos : ∀ n : ℕ, 0 < n → ¬(n : α) ≤ ((0 : ℕ) : α)
  elapsed_nonneg : ∀ earlier later : Instant, ((0 : ℕ) : α) ≤ elapsed earlier later
  mul_nonneg : ∀ a rate : α, ((0 : ℕ) : α) ≤ a → checkRate rate = .ok () →
    ((0 : ℕ) : α) ≤ a * rate
  natCast_le_add : ∀ (n : ℕ) (a : α), ((0 : ℕ) : α) ≤ a → (n : α) ≤ (n : α) + a
  zero_sub_le : ∀ a : α, ((0 : ℕ) : α) ≤ a → ((0 : ℕ) : α) - a ≤ ((0 : ℕ) : α)

/-- Rational numbers are not rounded. -/
instance : Rounding ℚ where
  natCast_le_self _ := le_rfl
  natCast_nonneg n := Nat.cast_le.2 n.zero_le
  natCast_pos _ positive := not_le.2 (Nat.cast_lt.2 positive)
  elapsed_nonneg earlier later := by
    rw [Nat.cast_zero]
    exact Exact.elapsed_nonneg earlier later
  mul_nonneg a rate nonneg valid := by
    rw [Nat.cast_zero] at *
    exact mul_nonneg nonneg (Exact.checkRate_eq_ok_iff.1 valid).le
  natCast_le_add n a nonneg := by
    rw [Nat.cast_zero] at nonneg
    exact le_add_of_nonneg_right nonneg
  zero_sub_le a nonneg := by
    rw [Nat.cast_zero] at *
    exact sub_nonpos.2 nonneg

variable {α : Type} [Arithmetic α]

theorem lesser_self (a : α) : lesser a a = a := by
  rw [lesser, ite_self, ite_self]

variable [Rounding α]

/-- What has been gained or drained between two instants is not negative. -/
theorem gain_nonneg (earlier later : Instant) {rate : α} (valid : checkRate rate = .ok ()) :
    ((0 : ℕ) : α) ≤ elapsed earlier later * rate :=
  Rounding.mul_nonneg _ rate (Rounding.elapsed_nonneg earlier later) valid

/-- What is full stays full. -/
theorem lesser_natCast_add (n : ℕ) {a : α} (nonneg : ((0 : ℕ) : α) ≤ a) :
    lesser ((n : α) + a) (n : α) = n := by
  have above : below ((n : α) + a) (n : α) = false := by
    simp [below, Rounding.natCast_le_add n a nonneg]
  have number : isNumber (n : α) = true := decide_eq_true (Rounding.natCast_le_self n)
  simp [lesser, above, number]

/-- What is dry stays dry. -/
theorem greater_zero_sub {a : α} (nonneg : ((0 : ℕ) : α) ≤ a) :
    greater (((0 : ℕ) : α) - a) ((0 : ℕ) : α) = ((0 : ℕ) : α) := by
  have notAbove : below ((0 : ℕ) : α) (((0 : ℕ) : α) - a) = false := by
    simp only [below, Rounding.zero_sub_le a nonneg, decide_true, Bool.not_true, Bool.and_false]
  have number : isNumber ((0 : ℕ) : α) = true := decide_eq_true (Rounding.natCast_le_self 0)
  simp only [greater, notAbove, number, Bool.false_eq_true, if_false, if_true]

/-- Nothing is within every positive capacity. -/
theorem lesser_zero_natCast {n : ℕ} (positive : 0 < n) :
    lesser ((0 : ℕ) : α) (n : α) = ((0 : ℕ) : α) := by
  have less : below ((0 : ℕ) : α) (n : α) = true := by
    simp only [below, Rounding.natCast_nonneg n, Rounding.natCast_pos n positive, decide_true,
      decide_false, Bool.not_false, Bool.and_self]
  simp only [lesser, less, if_true]

end Arithmetic

end Throttle
