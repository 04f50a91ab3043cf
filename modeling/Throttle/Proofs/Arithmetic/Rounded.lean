import Mathlib.Algebra.Order.Monoid.WithTop
import Mathlib.Order.WithBotTop
import Throttle.Proofs.Arithmetic.Exact

/-!
# Rounded results

Doubles and rational numbers have in common that a sum, a difference or a product is the exact
result, rounded by a function that keeps the order. The exact result may be out of the range of the
numbers, and is then rounded to an infinite value; what is computed with infinite values may be no
number at all. An arithmetic of this kind is described by the value of each of its numbers.

## Main definitions

* `Arithmetic.Extended`: rational numbers, and an infinite value on either side
* `Arithmetic.Rounded`: an arithmetic whose results are the exact ones, rounded
* `Arithmetic.Within`: an amount that is a number between nothing and a bound

## Main results

* `Arithmetic.value?_lesser`, `Arithmetic.value?_greater`: of two numbers, the value of one is kept
* `Arithmetic.exists_gain`: what is gained between two instants is a number, maybe infinite
* `Arithmetic.Within.fill`, `Arithmetic.Within.drain`, `Arithmetic.Within.take`,
  `Arithmetic.Within.pour`, `Arithmetic.Within.cut`: what buckets do with an amount keeps it between
  nothing and its bound
-/

namespace Throttle

namespace Arithmetic

/-- The values of numbers: rational numbers, and an infinite value on either side. -/
abbrev Extended := WithBotTop ℚ

namespace Extended

variable {x y : ℚ} {z : Extended}

theorem coe_inj : (x : Extended) = (y : Extended) ↔ x = y := WithBotTop.coe_injective.eq_iff

theorem coe_nonneg : 0 ≤ (x : Extended) ↔ 0 ≤ x := WithBotTop.coe_le_coe (a := 0)

theorem coe_pos : 0 < (x : Extended) ↔ 0 < x := WithBotTop.coe_lt_coe (a := 0)

theorem bot_lt_coe (x : ℚ) : ⊥ < (x : Extended) := bot_lt_iff_ne_bot.2 (WithBotTop.coe_ne_bot x)

theorem coe_lt_top (x : ℚ) : (x : Extended) < ⊤ := lt_top_iff_ne_top.2 (WithBotTop.coe_ne_top x)

/-- A value that is not negative is finite or infinite. -/
theorem eq_top_or_exists (nonneg : 0 ≤ z) : z = ⊤ ∨ ∃ t : ℚ, z = t ∧ 0 ≤ t := by
  induction z using WithBotTop.rec with
  | bot => exact absurd (le_bot_iff.1 nonneg) (WithBotTop.coe_ne_bot 0)
  | coe t => exact .inr ⟨t, rfl, coe_nonneg.1 nonneg⟩
  | top => exact .inl rfl

end Extended

/-- An arithmetic in which sums, differences and products are the exact results, rounded by a
function that keeps the order. Of infinite values only the results that have a limit are known, and
of quotients no more than that those of whole numbers are not negative. -/
class Rounded (α : Type) [Arithmetic α] where
  /-- The value of a number. What is not a number has none. -/
  value? : α → Option Extended
  /-- What becomes of an exact result. -/
  rounded : ℚ → Extended
  rounded_mono : Monotone rounded
  rounded_zero : rounded 0 = 0
  rounded_of_value? : ∀ {a : α} {x : ℚ}, value? a = some (x : Extended) → rounded x = x
  le_iff : ∀ {a b : α}, a ≤ b ↔ ∃ x y, value? a = some x ∧ value? b = some y ∧ x ≤ y
  isFinite_iff : ∀ {a : α}, isFinite a = true ↔ ∃ x : ℚ, value? a = some (x : Extended)
  value?_natCast : ∀ n : ℕ, value? (n : α) = some (rounded n)
  rounded_natCast : ∀ n : ℕ, n < 2 ^ 64 → ∃ x : ℚ, rounded n = (x : Extended)
  value?_add : ∀ {a b : α} {x y : ℚ}, value? a = some (x : Extended) →
    value? b = some (y : Extended) → value? (a + b) = some (rounded (x + y))
  value?_sub : ∀ {a b : α} {x y : ℚ}, value? a = some (x : Extended) →
    value? b = some (y : Extended) → value? (a - b) = some (rounded (x - y))
  value?_mul : ∀ {a b : α} {x y : ℚ}, value? a = some (x : Extended) →
    value? b = some (y : Extended) → value? (a * b) = some (rounded (x * y))
  value?_add_top : ∀ {a b : α} {x : ℚ}, value? a = some (x : Extended) → value? b = some ⊤ →
    value? (a + b) = some ⊤
  value?_sub_top : ∀ {a b : α} {x : ℚ}, value? a = some (x : Extended) → value? b = some ⊤ →
    value? (a - b) = some ⊥
  value?_top_mul : ∀ {a b : α} {x : ℚ}, value? a = some ⊤ → value? b = some (x : Extended) →
    0 < x → value? (a * b) = some ⊤
  natCast_div : ∀ m n : ℕ, 0 < n → n < 2 ^ 64 →
    ∃ x, value? ((m : α) / (n : α)) = some x ∧ 0 ≤ x

/-- Rational numbers are rounded to themselves. -/
instance : Rounded ℚ where
  value? x := some x
  rounded x := x
  rounded_mono := WithBotTop.coe_monotone
  rounded_zero := rfl
  rounded_of_value? _ := rfl
  le_iff := by simp
  isFinite_iff := by simp [isFinite]
  value?_natCast _ := rfl
  rounded_natCast n _ := ⟨n, rfl⟩
  value?_add ha hb := by
    simp only [Option.some.injEq, Extended.coe_inj] at ha hb
    rw [ha, hb]
  value?_sub ha hb := by
    simp only [Option.some.injEq, Extended.coe_inj] at ha hb
    rw [ha, hb]
  value?_mul ha hb := by
    simp only [Option.some.injEq, Extended.coe_inj] at ha hb
    rw [ha, hb]
  value?_add_top _ hb := by simp at hb
  value?_sub_top _ hb := by simp at hb
  value?_top_mul ha := by simp at ha
  natCast_div m n _ _ := by
    have nonneg : (0 : ℚ) ≤ (m : ℚ) / (n : ℚ) := div_nonneg (Nat.cast_nonneg m) (Nat.cast_nonneg n)
    exact ⟨_, rfl, Extended.coe_nonneg.2 nonneg⟩

/-! ## Comparisons -/

section Comparisons

variable {α : Type} [Arithmetic α] [Rounded α] {a b : α} {x y : Extended}

open Rounded

theorem le_iff_of_value? (ha : value? a = some x) (hb : value? b = some y) : a ≤ b ↔ x ≤ y := by
  rw [le_iff, ha, hb]
  simp

/-- The numbers are the values that compare with themselves. -/
theorem isNumber_of_value? (ha : value? a = some x) : isNumber a = true :=
  decide_eq_true ((le_iff_of_value? ha ha).2 le_rfl)

theorem below_iff (ha : value? a = some x) (hb : value? b = some y) :
    below a b = true ↔ x < y := by
  rw [below, Bool.and_eq_true, Bool.not_eq_true', decide_eq_true_eq, decide_eq_false_iff_not,
    le_iff_of_value? ha hb, le_iff_of_value? hb ha, lt_iff_le_not_ge]

/-- The lesser of two numbers has the lesser value. -/
theorem value?_lesser (ha : value? a = some x) (hb : value? b = some y) :
    value? (lesser a b) = some (min x y) := by
  rw [lesser, isNumber_of_value? hb, if_pos rfl]
  by_cases less : x < y
  · rw [if_pos ((below_iff ha hb).2 less), min_eq_left less.le, ha]
  · rw [if_neg ((below_iff ha hb).not.2 less), min_eq_right (not_lt.1 less), hb]

/-- The greater of two numbers has the greater value. -/
theorem value?_greater (ha : value? a = some x) (hb : value? b = some y) :
    value? (greater a b) = some (max x y) := by
  rw [greater, isNumber_of_value? hb, if_pos rfl]
  by_cases less : y < x
  · rw [if_pos ((below_iff hb ha).2 less), max_eq_left less.le, ha]
  · rw [if_neg ((below_iff hb ha).not.2 less), max_eq_right (not_lt.1 less), hb]

end Comparisons

/-! ## Results -/

section Results

variable {α : Type} [Arithmetic α] [Rounded α] {a b : α} {x : ℚ}

open Rounded

theorem value?_zero : value? ((0 : ℕ) : α) = some 0 := by
  rw [value?_natCast, Nat.cast_zero, rounded_zero]

/-- What is not below zero is a number, maybe infinite, and not negative. -/
theorem exists_value_of_nonneg (nonneg : ((0 : ℕ) : α) ≤ a) : ∃ y, value? a = some y ∧ 0 ≤ y := by
  obtain ⟨-, y, -, value, -⟩ := le_iff.1 nonneg
  exact ⟨y, value, (le_iff_of_value? value?_zero value).1 nonneg⟩

theorem rounded_nonneg (nonneg : 0 ≤ x) : 0 ≤ rounded α x := by
  rw [← rounded_zero (α := α)]
  exact rounded_mono nonneg

/-- A whole number of 64 bits is a finite number, and not negative. -/
theorem exists_natCast {n : ℕ} (small : n < 2 ^ 64) :
    ∃ x : ℚ, value? (n : α) = some (x : Extended) ∧ 0 ≤ x := by
  obtain ⟨x, finite⟩ := rounded_natCast (α := α) n small
  have nonneg := rounded_nonneg (α := α) n.cast_nonneg
  rw [finite] at nonneg
  exact ⟨x, (value?_natCast n).trans (congrArg some finite), Extended.coe_nonneg.1 nonneg⟩

/-- A rate that passes is a finite number, and positive. -/
theorem exists_rate {rate : α} (valid : checkRate rate = .ok ()) :
    ∃ x : ℚ, value? rate = some (x : Extended) ∧ 0 < x := by
  unfold checkRate at valid
  split at valid
  · rename_i passes
    rw [Bool.and_eq_true] at passes
    obtain ⟨x, finite⟩ := isFinite_iff.1 passes.1
    have positive := (below_iff value?_zero finite).1 passes.2
    exact ⟨x, finite, Extended.coe_pos.1 positive⟩
  · cases valid

/-- The time between two instants is a number, and not negative. -/
theorem exists_elapsed (earlier later : Instant) :
    ∃ y, value? (elapsed earlier later : α) = some y ∧ 0 ≤ y := by
  unfold elapsed
  dsimp only
  split <;> exact natCast_div _ _ (by decide) (by decide)

/-- Time at a rate that passes is not negative, but maybe infinite. -/
theorem exists_mul {y : Extended} (ha : value? a = some y) (nonneg : 0 ≤ y) {rate : α}
    (valid : checkRate rate = .ok ()) : ∃ z, value? (a * rate) = some z ∧ 0 ≤ z := by
  obtain ⟨r, hr, positive⟩ := exists_rate valid
  obtain rfl | ⟨t, rfl, finite⟩ := Extended.eq_top_or_exists nonneg
  · exact ⟨⊤, value?_top_mul ha hr positive, le_top⟩
  · exact ⟨_, value?_mul ha hr, rounded_nonneg (mul_nonneg finite positive.le)⟩

/-- What is gained between two instants is a number and not negative, but maybe infinite. -/
theorem exists_gain (earlier later : Instant) {rate : α} (valid : checkRate rate = .ok ()) :
    ∃ y, value? (elapsed earlier later * rate) = some y ∧ 0 ≤ y := by
  obtain ⟨t, ht, nonneg⟩ := exists_elapsed (α := α) earlier later
  exact exists_mul ht nonneg valid

/-- A gain does not lower an amount. -/
theorem exists_add {y : Extended} (ha : value? a = some (x : Extended)) (hb : value? b = some y)
    (nonneg : 0 ≤ y) : ∃ z, value? (a + b) = some z ∧ x ≤ z := by
  obtain rfl | ⟨t, rfl, finite⟩ := Extended.eq_top_or_exists nonneg
  · exact ⟨⊤, value?_add_top ha hb, le_top⟩
  · refine ⟨_, value?_add ha hb, ?_⟩
    exact (rounded_of_value? ha).symm.trans_le (rounded_mono (le_add_of_nonneg_right finite))

/-- A loss does not raise an amount. -/
theorem exists_sub {y : Extended} (ha : value? a = some (x : Extended)) (hb : value? b = some y)
    (nonneg : 0 ≤ y) : ∃ z, value? (a - b) = some z ∧ z ≤ x := by
  obtain rfl | ⟨t, rfl, finite⟩ := Extended.eq_top_or_exists nonneg
  · exact ⟨⊥, value?_sub_top ha hb, bot_le⟩
  · refine ⟨_, value?_sub ha hb, ?_⟩
    exact (rounded_mono (sub_le_self x finite)).trans_eq (rounded_of_value? ha)

end Results

/-! ## Amounts -/

/-- An amount that is a number between nothing and a bound. -/
structure Within {α : Type} [Arithmetic α] (amount : α) (bound : ℕ) : Prop where
  number : isNumber amount = true
  nonneg : ((0 : ℕ) : α) ≤ amount
  atMost : amount ≤ (bound : α)

namespace Within

variable {α : Type} [Arithmetic α] [Rounded α] {amount : α} {bound n : ℕ}

open Rounded

theorem of_value? {y : Extended} (value : value? amount = some y) (nonneg : 0 ≤ y)
    (atMost : y ≤ rounded α bound) : Within amount bound where
  number := isNumber_of_value? value
  nonneg := (le_iff_of_value? value?_zero value).2 nonneg
  atMost := (le_iff_of_value? value (value?_natCast bound)).2 atMost

/-- An amount below a bound of 64 bits is finite. -/
theorem exists_value (h : Within amount bound) (small : bound < 2 ^ 64) :
    ∃ x : ℚ, value? amount = some (x : Extended) ∧ 0 ≤ x ∧ (x : Extended) ≤ rounded α bound := by
  obtain ⟨y, value, nonneg⟩ := exists_value_of_nonneg h.nonneg
  have atMost := (le_iff_of_value? value (value?_natCast bound)).1 h.atMost
  obtain rfl | ⟨x, rfl, positive⟩ := Extended.eq_top_or_exists nonneg
  · obtain ⟨b, finite⟩ := rounded_natCast (α := α) bound small
    rw [finite] at atMost
    exact absurd atMost (not_le.2 (Extended.coe_lt_top b))
  · exact ⟨x, value, positive, atMost⟩

/-- The bound itself is within it. -/
theorem bound_self (bound : ℕ) : Within (bound : α) bound :=
  of_value? (value?_natCast bound) (rounded_nonneg bound.cast_nonneg) le_rfl

/-- Nothing is within every bound. -/
theorem zero (bound : ℕ) : Within ((0 : ℕ) : α) bound :=
  of_value? value?_zero le_rfl (rounded_nonneg bound.cast_nonneg)

/-- An amount that is filled up stays within its bound. -/
theorem fill (h : Within amount bound) (small : bound < 2 ^ 64) {gain : α} {y : Extended}
    (value : value? gain = some y) (nonneg : 0 ≤ y) :
    Within (lesser (amount + gain) (bound : α)) bound := by
  obtain ⟨x, finite, positive, -⟩ := h.exists_value small
  obtain ⟨z, sum, more⟩ := exists_add finite value nonneg
  refine of_value? (value?_lesser sum (value?_natCast bound)) (le_min ?_ ?_) (min_le_right _ _)
  · exact le_trans (Extended.coe_nonneg.2 positive) more
  · exact rounded_nonneg bound.cast_nonneg

/-- An amount that is drained stays within its bound. -/
theorem drain (h : Within amount bound) (small : bound < 2 ^ 64) {loss : α} {y : Extended}
    (value : value? loss = some y) (nonneg : 0 ≤ y) :
    Within (greater (amount - loss) ((0 : ℕ) : α)) bound := by
  obtain ⟨x, finite, -, atMost⟩ := h.exists_value small
  obtain ⟨z, difference, less⟩ := exists_sub finite value nonneg
  refine of_value? (value?_greater difference value?_zero) (le_max_right _ _) (max_le ?_ ?_)
  · exact less.trans atMost
  · exact rounded_nonneg bound.cast_nonneg

/-- An amount from which no more is taken than there is stays within its bound. -/
theorem take (h : Within amount bound) (small : bound < 2 ^ 64) (few : n < 2 ^ 64)
    (enough : (n : α) ≤ amount) : Within (amount - (n : α)) bound := by
  obtain ⟨x, finite, -, atMost⟩ := h.exists_value small
  obtain ⟨t, taken, nonneg⟩ := exists_natCast (α := α) few
  have enough : t ≤ x := WithBotTop.coe_le_coe.1 ((le_iff_of_value? taken finite).1 enough)
  refine of_value? (value?_sub finite taken) (rounded_nonneg (sub_nonneg.2 enough)) ?_
  calc rounded α (x - t) ≤ rounded α x := rounded_mono (sub_le_self x nonneg)
    _ = x := rounded_of_value? finite
    _ ≤ rounded α bound := atMost

/-- An amount to which something is added stays within its bound if it is not above it. -/
theorem pour (h : Within amount bound) (small : bound < 2 ^ 64)
    (few : n < 2 ^ 64) (fits : below (bound : α) (amount + (n : α)) = false) :
    Within (amount + (n : α)) bound := by
  obtain ⟨x, finite, nonneg, -⟩ := h.exists_value small
  obtain ⟨t, poured, positive⟩ := exists_natCast (α := α) few
  have sum := value?_add finite poured
  have notAbove : ¬rounded α bound < rounded α (x + t) := by
    rw [← below_iff (value?_natCast bound) sum, fits]
    exact Bool.false_ne_true
  exact of_value? sum (rounded_nonneg (add_nonneg nonneg positive)) (not_lt.1 notAbove)

/-- An amount that is cut to a new bound is within that one. -/
theorem cut (h : Within amount bound) (bound' : ℕ) :
    Within (lesser amount (bound' : α)) bound' := by
  obtain ⟨y, value, nonneg⟩ := exists_value_of_nonneg h.nonneg
  exact of_value? (value?_lesser value (value?_natCast bound'))
    (le_min nonneg (rounded_nonneg bound'.cast_nonneg)) (min_le_right _ _)

end Within

end Arithmetic

end Throttle
