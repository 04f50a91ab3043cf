import Mathlib.Algebra.Order.Field.Rat
import Mathlib.Data.Nat.Cast.Order.Field
import Mathlib.Data.Rat.Floor
import Mathlib.Tactic.Linarith
import Throttle.Bucket.Elapsed
import Throttle.Decimal.Numeral
import Throttle.Parameters

/-!
# Exact arithmetic

Rational numbers are the arithmetic in which the rules of the buckets hold without rounding. A
rational number is written as a whole number, or as a fraction in lowest terms.

## Main definitions

* `Exact.text`, `Exact.ofText?`: rational numbers as texts
* the instance `Arithmetic ℚ`

## Main results

* `Exact.lesser_eq_min`, `Exact.greater_eq_max`: all rational numbers are comparable
* `Exact.elapsed_eq`: seconds are counted without rounding
* `Exact.elapsed_le`: a count in milliseconds is rounded down
-/

namespace Throttle

namespace Exact

/-- The text of a rational number. -/
def text (q : ℚ) : String :=
  if q.den = 1 then toString q.num else toString q.num ++ "/" ++ toString q.den

/-- The rational number of a numeral. Infinities are no numbers. -/
def ofNumeral? : Numeral → Option ℚ
  | .finite negative coefficient exponent =>
    let magnitude : ℚ := coefficient * 10 ^ exponent
    some (if negative then -magnitude else magnitude)
  | .infinite _ => none
  | .nan => none

/-- The rational number of a text: a numeral or a fraction of whole numbers. -/
def ofText? (s : String) : Option ℚ :=
  match s.toList.span (· != '/') with
  | (_, []) => (Numeral.ofText? s).bind ofNumeral?
  | (top, _ :: bottom) => do
    let num ← Numeral.wholeOfText? (String.ofList top)
    let den ← Numeral.natOfText? (String.ofList bottom)
    return mkRat num den

end Exact

/-- Exact arithmetic. -/
instance : Arithmetic ℚ where
  decLe := inferInstance
  isFinite _ := true
  whole q := ⌊q⌋.toNat
  text := Exact.text
  ofText? := Exact.ofText?

namespace Exact

theorem below_iff {a b : ℚ} : Arithmetic.below a b = true ↔ a < b := by
  simp only [Arithmetic.below, Bool.and_eq_true, Bool.not_eq_true', decide_eq_true_eq,
    decide_eq_false_iff_not, lt_iff_le_not_ge]

theorem isNumber_eq_true (a : ℚ) : Arithmetic.isNumber a = true :=
  decide_eq_true (le_refl a)

/-- Of two rational numbers, one is the least. -/
theorem lesser_eq_min (a b : ℚ) : Arithmetic.lesser a b = min a b := by
  rw [Arithmetic.lesser, isNumber_eq_true, if_pos rfl]
  by_cases h : a < b
  · rw [if_pos (below_iff.2 h), min_eq_left h.le]
  · rw [if_neg (below_iff.not.2 h), min_eq_right (not_lt.1 h)]

/-- Of two rational numbers, one is the greatest. -/
theorem greater_eq_max (a b : ℚ) : Arithmetic.greater a b = max a b := by
  rw [Arithmetic.greater, isNumber_eq_true, if_pos rfl]
  by_cases h : b < a
  · rw [if_pos (below_iff.2 h), max_eq_left h.le]
  · rw [if_neg (below_iff.not.2 h), max_eq_right (not_lt.1 h)]

/-- A rate passes if it is positive. -/
theorem checkRate_eq_ok_iff {rate : ℚ} {u : Unit} : checkRate rate = .ok u ↔ 0 < rate := by
  have positive : Arithmetic.below ((0 : ℕ) : ℚ) rate = true ↔ 0 < rate := by
    rw [below_iff, Nat.cast_zero]
  rw [← positive, checkRate]
  change (if (true && _) = true then _ else _) = _ ↔ _
  simp

/-- The seconds between two instants, as long as 63 bits count the nanoseconds. -/
theorem elapsed_eq {earlier later : Instant} (order : earlier ≤ later)
    (close : later.nanos - earlier.nanos < 2 ^ 63) :
    (elapsed earlier later : ℚ) = (later.nanos - earlier.nanos : ℤ) / 1000000000 := by
  rw [Instant.le_def] at order
  have short : (later.nanos - earlier.nanos).toNat < 2 ^ 63 := by omega
  have exact : (((later.nanos - earlier.nanos).toNat : ℕ) : ℚ) =
      (later.nanos - earlier.nanos : ℤ) := by
    rw [← Int.cast_natCast, Int.toNat_of_nonneg (by omega)]
  unfold elapsed
  dsimp only
  rw [if_pos short]
  change (((later.nanos - earlier.nanos).toNat : ℕ) : ℚ) / ((1000000000 : ℕ) : ℚ) = _
  rw [exact, Nat.cast_ofNat]

theorem elapsed_nonneg (earlier later : Instant) : 0 ≤ (elapsed earlier later : ℚ) := by
  unfold elapsed
  dsimp only
  split <;> exact div_nonneg (Nat.cast_nonneg _) (Nat.cast_nonneg _)

/-- The seconds between two instants are not overcounted, also where milliseconds are counted. -/
theorem elapsed_le (earlier later : Instant) :
    (elapsed earlier later : ℚ) ≤
      ((later.nanos - earlier.nanos).toNat : ℕ) / 1000000000 := by
  unfold elapsed
  dsimp only
  split
  · rw [Nat.cast_ofNat]
  · have whole : (((later.nanos - earlier.nanos).toNat / 1000000 : ℕ) : ℚ) ≤
        ((later.nanos - earlier.nanos).toNat : ℕ) / (1000000 : ℕ) := Nat.cast_div_le
    rw [div_le_div_iff₀ (by norm_num) (by norm_num)]
    rw [le_div_iff₀ (by norm_num)] at whole
    push_cast at whole ⊢
    linarith

end Exact

end Throttle
