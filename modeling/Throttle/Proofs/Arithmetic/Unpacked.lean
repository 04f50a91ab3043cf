import Mathlib
import Throttle.Proofs.Arithmetic.Nearest

/-!
# Operations on doubles

The core library describes the operations on doubles by what they do to digits: they are computed in
full, shifted to the place of the last digit that fits, with two bits for what is shifted out, and
rounded by these two bits. Here it is shown that this is the exact result, rounded to the nearest
double as if no bound were set to the exponent.

## Main definitions

* `Double.signed s x`: the number `x` with the sign `s`
* `Double.Holds em x r`: digits and two bits that stand for `x`, of which `r` is the fraction
* `Double.Writes u x`: a double taken apart that stands for `x` with the digits of a double

## Main results

* `Double.Writes.add`, `Double.Writes.sub`, `Double.Writes.mul`: sums, differences and products are
  the exact results, rounded to the nearest
-/

namespace Throttle

namespace Double

open Float.Model Float.Model.UnpackedFloat

/-! ## Rounding by two bits -/

/-- Digits and two bits that stand for `x`: the digits for its whole part, the bits for where its
fraction `r` is. -/
structure Holds (em : ExtendedMantissa) (x r : ℚ) : Prop where
  sum : x = em.mantissa + r
  nonneg : 0 ≤ r
  less : r < 1
  round : em.roundBit = true ↔ 1 / 2 ≤ r
  sticky : em.stickyBit = true ↔ r ≠ 0 ∧ r ≠ 1 / 2

namespace Holds

variable {em : ExtendedMantissa} {x r : ℚ}

theorem exact (m : ℕ) : Holds (.ofMantissaAndAccuracy m .exact) m 0 where
  sum := (add_zero _).symm
  nonneg := le_rfl
  less := one_pos
  round := by simp [ExtendedMantissa.ofMantissaAndAccuracy]
  sticky := by simp [ExtendedMantissa.ofMantissaAndAccuracy]

/-- One of the two bits is set exactly if there is a fraction. -/
theorem bits_iff (h : Holds em x r) : (em.roundBit || em.stickyBit) = true ↔ r ≠ 0 := by
  rw [Bool.or_eq_true, h.round, h.sticky]
  constructor
  · rintro (half | ⟨inexact, -⟩)
    · linarith
    · exact inexact
  · intro inexact
    by_cases half : r = 1 / 2
    · exact .inl half.ge
    · exact .inr ⟨inexact, half⟩

/-- Half the number is the digits shifted by one. -/
theorem shiftRightOne (h : Holds em x r) :
    Holds em.shiftRightOne (x / 2) (((em.mantissa % 2 : ℕ) + r) / 2) := by
  have nonneg := h.nonneg
  have less := h.less
  have halves : (em.mantissa : ℚ) = 2 * (em.mantissa / 2 : ℕ) + (em.mantissa % 2 : ℕ) := by
    exact_mod_cast (Nat.div_add_mod em.mantissa 2).symm
  have sum : x / 2 = (em.mantissa / 2 : ℕ) + ((em.mantissa % 2 : ℕ) + r) / 2 := by
    rw [h.sum, halves]
    ring
  -- The digit shifted out decides between the halves; what was behind it, whether it is the middle.
  rcases Nat.mod_two_eq_zero_or_one em.mantissa with even | odd
  · rw [even, Nat.cast_zero, zero_add] at sum ⊢
    refine ⟨sum, by linarith, by linarith, ?_, h.bits_iff.trans ?_⟩
    · simp only [ExtendedMantissa.shiftRightOne, even, bne_self_eq_false, Bool.false_eq_true,
        false_iff]
      linarith
    · have below : r / 2 ≠ 1 / 2 := by linarith
      simp only [ne_eq, div_eq_zero_iff, two_ne_zero, or_false, below, not_false_eq_true, and_true]
  · rw [odd, Nat.cast_one] at sum ⊢
    refine ⟨sum, by linarith, by linarith, ?_, h.bits_iff.trans ?_⟩
    · simp only [ExtendedMantissa.shiftRightOne, odd, bne_iff_ne, ne_eq, one_ne_zero,
        not_false_eq_true, true_iff]
      linarith
    · have positive : (1 + r) / 2 ≠ 0 := by linarith
      have middle : (1 + r) / 2 = 1 / 2 ↔ r = 0 := by
        constructor <;> intro <;> linarith
      simp only [ne_eq, positive, middle, not_false_eq_true, true_and]

theorem shiftRight (h : Holds em x r) (k : ℕ) : ∃ r', Holds (em >>> k) (x / 2 ^ k) r' := by
  induction k with
  | zero =>
    refine ⟨r, ?_⟩
    rw [pow_zero, div_one]
    exact h
  | succ k ih =>
    obtain ⟨r', h'⟩ := ih
    have half := h'.shiftRightOne
    rw [div_div, ← pow_succ] at half
    exact ⟨_, half⟩

theorem floor_and_fract (h : Holds em x r) : ⌊x⌋ = em.mantissa ∧ Int.fract x = r := by
  rw [h.sum]
  exact_mod_cast floor_and_fract_add (m := em.mantissa) h.nonneg h.less

/-- The two bits suffice to round. -/
theorem roundedMantissa_eq (h : Holds em x r) : (em.roundedMantissa : ℤ) = halfEven x := by
  obtain ⟨whole, fraction⟩ := h.floor_and_fract
  have round := h.round
  have sticky := h.sticky
  obtain ⟨m, roundBit, stickyBit⟩ := em
  cases roundBit with
  | false =>
    have less : r < 1 / 2 := not_le.1 fun half => Bool.false_ne_true (round.2 half)
    rw [halfEven_of_lt (fraction ▸ less), whole]
    cases stickyBit <;> rfl
  | true =>
    have half : 1 / 2 ≤ r := round.1 rfl
    cases stickyBit with
    | false =>
      have middle : r = 1 / 2 := by
        by_contra other
        exact Bool.false_ne_true (sticky.2 ⟨by linarith, other⟩)
      rw [halfEven_of_eq (fraction.trans middle), whole]
      rfl
    | true =>
      have more : 1 / 2 < r := lt_of_le_of_ne half (sticky.1 rfl).2.symm
      rw [halfEven_of_gt (fraction ▸ more), whole]
      rfl

end Holds

/-! ## Rounding to the place of the last digit -/

/-- The number `x` with the sign `s`. -/
def signed (s : Sign) (x : ℚ) : ℚ :=
  match s with
  | .negative => -x
  | .positive => x

@[simp] theorem signed_zero (s : Sign) : signed s 0 = 0 := by
  cases s with
  | negative => exact neg_zero
  | positive => rfl

theorem nearest_signed (s : Sign) (x : ℚ) : nearest (signed s x) = signed s (nearest x) := by
  cases s with
  | negative => exact nearest_neg x
  | positive => rfl

/-- A double taken apart that stands for `x` with the digits of a double. -/
inductive Writes : UnpackedFloat → ℚ → Prop where
  | zero (s : Sign) : Writes (.zero s) 0
  | finite (s : Sign) (m : ℕ) (e : ℤ) (positive : 0 < m) (digits : Digits m e) :
    Writes (.finite s m e positive) (signed s (m * 2 ^ e))

/-- What is written with the digits of a double is the nearest double to itself. -/
theorem Writes.nearest_eq {u : UnpackedFloat} {x : ℚ} (h : Writes u x) : nearest x = x := by
  cases h with
  | zero s => exact nearest_zero
  | finite s m e positive digits => rw [nearest_signed, nearest_of_digits digits]

/-- The place of the last digit, as the core library computes it. -/
theorem targetExponent_eq (m : ℕ) (e : ℤ) :
    Format.binary64.targetExponent (totalExponent m e) = max (m.log2 + e - 52) (-1074) := by
  change max (m.log2 + 1 + e - 53) (-1074) = max (m.log2 + e - 52) (-1074 : ℤ)
  omega

theorem targetExponent_eq_unit {m : ℕ} (positive : 0 < m) (e : ℤ) :
    Format.binary64.targetExponent (totalExponent m e) = unit (m * 2 ^ e) := by
  rw [targetExponent_eq, unit_mul_zpow positive]

/-- Digits on a coarser scale. -/
theorem mul_zpow_div {e u : ℤ} (coarser : e ≤ u) (x : ℚ) :
    x * 2 ^ e / 2 ^ u = x / 2 ^ (u - e).toNat := by
  have moved : u = e + ((u - e).toNat : ℕ) := by omega
  nth_rewrite 1 [moved]
  rw [zpow_add₀ two_ne_zero, zpow_natCast, mul_comm x, mul_div_mul_left _ _ (two_zpow_pos e).ne']

/-- The first shift, and the rounding after it. -/
theorem exists_shift_rounded {m : ℕ} (positive : 0 < m) {e : ℤ} (fine : e ≤ unit (m * 2 ^ e)) :
    ∃ em, shiftToTargetExponent .binary64 m e .exact = (em, unit (m * 2 ^ e)) ∧
      (em.roundedMantissa : ℤ) = halfEven (m * 2 ^ e / 2 ^ unit (m * 2 ^ e)) := by
  have moved : e + ((unit (m * 2 ^ e) - e).toNat : ℕ) = unit (m * 2 ^ e) := by omega
  obtain ⟨r, h⟩ := (Holds.exact m).shiftRight (unit (m * 2 ^ e) - e).toNat
  refine ⟨_, ?_, h.roundedMantissa_eq.trans ?_⟩
  · rw [shiftToTargetExponent, targetExponent_eq_unit positive, shiftToExponent, moved]
  · rw [mul_zpow_div fine]

/-- The second shift, after which no digit is lost: only a carry into a new digit moves the
others. -/
theorem exists_shift_digits {m : ℕ} {e : ℤ} (short : m ≤ 2 ^ 53) (least : -1074 ≤ e)
    (full : 2 ^ 52 ≤ m ∨ e = -1074) :
    ∃ em e', shiftToTargetExponent .binary64 m e .exact = (em, e') ∧ Digits em.mantissa e' ∧
      (em.mantissa : ℚ) * 2 ^ e' = m * 2 ^ e := by
  rw [shiftToTargetExponent, targetExponent_eq, shiftToExponent]
  rcases short.lt_or_eq with fits | carry
  · have log : m.log2 < 53 := by
      by_cases zero : m = 0
      · rw [zero, Nat.log2_zero]
        omega
      · exact (Nat.log2_lt zero).2 fits
    have none : (max ((m.log2 : ℤ) + e - 52) (-1074) - e).toNat = 0 := by omega
    rw [none]
    exact ⟨.ofMantissaAndAccuracy m .exact, e, by simp; rfl, ⟨fits, least, full⟩, rfl⟩
  · subst carry
    have log : (2 ^ 53 : ℕ).log2 = 53 := Nat.log2_two_pow
    have one : (max (((2 ^ 53 : ℕ).log2 : ℤ) + e - 52) (-1074) - e).toNat = 1 := by
      rw [log]
      omega
    rw [one]
    refine ⟨.ofMantissaAndAccuracy (2 ^ 52) .exact, e + 1, rfl, ⟨?_, ?_, ?_⟩, ?_⟩
    · change 2 ^ 52 < 2 ^ 53
      decide
    · omega
    · exact .inl le_rfl
    · change ((2 ^ 52 : ℕ) : ℚ) * 2 ^ (e + 1) = ((2 ^ 53 : ℕ) : ℚ) * 2 ^ e
      rw [zpow_add_one₀ two_ne_zero]
      push_cast
      ring

/-- Digits that are too fine are rounded to the nearest double. -/
theorem writes_roundWithAccuracy (s : Sign) {m : ℕ} (positive : 0 < m) {e : ℤ}
    (fine : e ≤ unit (m * 2 ^ e)) :
    Writes (roundWithAccuracy .binary64 s m e .exact) (signed s (nearest (m * 2 ^ e))) := by
  obtain ⟨em, first, rounded⟩ := exists_shift_rounded positive fine
  obtain ⟨short, full⟩ := halfEven_unit_bounds (mul_zpow_pos positive e)
  rw [← rounded] at short full
  obtain ⟨em', e', second, digits, same⟩ :=
    exists_shift_digits (e := unit (m * 2 ^ e)) (by exact_mod_cast short) (le_max_right _ _)
      (by exact_mod_cast full)
  have value : nearest (m * 2 ^ e) = em'.mantissa * 2 ^ e' := by
    rw [nearest, ← rounded, same, Int.cast_natCast]
  rw [roundWithAccuracy, first]
  dsimp only
  rw [second, value]
  dsimp only
  split
  · rename_i zero
    rw [zero, Nat.cast_zero, zero_mul, signed_zero]
    exact .zero s
  · exact .finite s _ _ _ digits

/-- Digits that are moved to a finer place write the same number. -/
theorem decreaseExponent_eq (m : ℕ) (e t : ℤ) :
    ((decreaseExponent m e t).1 : ℚ) * 2 ^ (decreaseExponent m e t).2 = m * 2 ^ e ∧
      (decreaseExponent m e t).2 = min e t := by
  have moved : e - (e - t).toNat = min e t := by omega
  refine ⟨?_, moved⟩
  simp only [decreaseExponent, Nat.shiftLeft_eq]
  rw [zpow_sub₀ two_ne_zero, zpow_natCast]
  push_cast
  field_simp

/-- Digits at any place are rounded to the nearest double. -/
theorem writes_round (s : Sign) {m : ℕ} (positive : 0 < m) (e : ℤ) :
    Writes (UnpackedFloat.round .binary64 s m e) (signed s (nearest (m * 2 ^ e))) := by
  obtain ⟨same, place⟩ := decreaseExponent_eq m e (unit (m * 2 ^ e))
  have rounded := writes_roundWithAccuracy s
    (m := (decreaseExponent m e (unit (m * 2 ^ e))).1)
    (e := (decreaseExponent m e (unit (m * 2 ^ e))).2)
    (by
      rw [decreaseExponent, Nat.shiftLeft_eq]
      exact Nat.mul_pos positive (Nat.two_pow_pos _))
    (by
      rw [same, place]
      exact min_le_right _ _)
  rw [same] at rounded
  rw [UnpackedFloat.round, targetExponent_eq_unit positive]
  exact rounded

/-- A whole number of digits at any place is rounded to the nearest double. -/
theorem writes_normalize (z e : ℤ) (s : Sign) :
    Writes (UnpackedFloat.normalize .binary64 z e s) (nearest (z * 2 ^ e)) := by
  unfold UnpackedFloat.normalize
  split
  · rename_i negative
    rw [compare_lt_iff_lt] at negative
    have digits : ((-z).toNat : ℚ) = -z := by
      exact_mod_cast Int.toNat_of_nonneg (by omega : 0 ≤ -z)
    have h := writes_round .negative (by omega : 0 < (-z).toNat) e
    rw [← nearest_signed, digits, signed, neg_mul, neg_neg] at h
    exact h
  · rename_i zero
    rw [compare_eq_iff_eq] at zero
    rw [zero, Int.cast_zero, zero_mul, nearest_zero]
    exact .zero s
  · rename_i positive
    rw [compare_gt_iff_gt] at positive
    have digits : (z.toNat : ℚ) = z := by
      exact_mod_cast Int.toNat_of_nonneg positive.le
    have h := writes_round .positive (by omega : 0 < z.toNat) e
    rw [← nearest_signed, digits, signed] at h
    exact h

/-! ## Sums, differences and products -/

/-- Signed digits that are moved to a finer place. -/
theorem apply_decreaseExponent (s : Sign) (m : ℕ) {e t : ℤ} (finer : t ≤ e) :
    ((s.apply (decreaseExponent m e t).1 : ℤ) : ℚ) * 2 ^ t = signed s (m * 2 ^ e) := by
  obtain ⟨same, place⟩ := decreaseExponent_eq m e t
  rw [place, min_eq_right finer] at same
  rw [← same]
  cases s with
  | negative =>
    rw [Sign.apply, signed, Int.cast_neg, Int.cast_natCast, neg_mul]
  | positive => rw [Sign.apply, signed, Int.cast_natCast]

theorem signed_neg (s : Sign) (x : ℚ) : signed (-s) x = -signed s x := by
  cases s with
  | negative => exact (neg_neg x).symm
  | positive => rfl

theorem signed_mul (s s' : Sign) (x y : ℚ) :
    signed (s * s') (x * y) = signed s x * signed s' y := by
  cases s <;> cases s'
  · exact (neg_mul_neg x y).symm
  · exact (neg_mul x y).symm
  · exact (mul_neg x y).symm
  · rfl

/-- Multiplied digits are too fine for a double, or just fine enough. -/
theorem Digits.le_unit_mul {m m' : ℕ} {e e' : ℤ} (digits : Digits m e) (digits' : Digits m' e')
    (positive : 0 < m) (positive' : 0 < m') :
    e + e' ≤ unit ((m * m' : ℕ) * 2 ^ (e + e')) := by
  rw [unit_mul_zpow (Nat.mul_pos positive positive')]
  have full : 2 ^ 52 ≤ m ∨ 2 ^ 52 ≤ m' → 52 ≤ (m * m').log2 := by
    rw [Nat.le_log2 (Nat.mul_pos positive positive').ne']
    rintro (full | full)
    · exact full.trans (Nat.le_mul_of_pos_right m positive')
    · exact full.trans (Nat.le_mul_of_pos_left m' positive)
  have least := digits.least
  have least' := digits'.least
  rcases digits.full with long | short
  · have := full (.inl long)
    omega
  · rcases digits'.full with long | short'
    · have := full (.inr long)
      omega
    · omega

namespace Writes

variable {u v : UnpackedFloat} {x y : ℚ}

/-- The sum is the exact one, rounded to the nearest double. -/
theorem add (h : Writes u x) (h' : Writes v y) :
    Writes (UnpackedFloat.add .binary64 u v) (nearest (x + y)) := by
  cases h with
  | zero s =>
    rw [zero_add, h'.nearest_eq]
    cases h' with
    | zero s' =>
      rw [UnpackedFloat.add]
      split <;> exact .zero _
    | finite s' m' e' positive' digits' => exact .finite s' m' e' positive' digits'
  | finite s m e positive digits =>
    cases h' with
    | zero s' =>
      rw [add_zero, (finite s m e positive digits).nearest_eq]
      exact .finite s m e positive digits
    | finite s' m' e' positive' digits' =>
      have sum := writes_normalize
        (s.apply (decreaseExponent m e (min e e')).1 +
          s'.apply (decreaseExponent m' e' (min e e')).1)
        (min e e') .positive
      rw [Int.cast_add, add_mul, apply_decreaseExponent s m (min_le_left e e'),
        apply_decreaseExponent s' m' (min_le_right e e')] at sum
      exact sum

/-- The difference is the exact one, rounded to the nearest double. -/
theorem sub (h : Writes u x) (h' : Writes v y) :
    Writes (UnpackedFloat.sub .binary64 u v) (nearest (x - y)) := by
  cases h with
  | zero s =>
    rw [zero_sub, nearest_neg, h'.nearest_eq]
    cases h' with
    | zero s' =>
      rw [neg_zero, UnpackedFloat.sub]
      split <;> exact .zero _
    | finite s' m' e' positive' digits' =>
      rw [← signed_neg]
      exact .finite (-s') m' e' positive' digits'
  | finite s m e positive digits =>
    cases h' with
    | zero s' =>
      rw [sub_zero, (finite s m e positive digits).nearest_eq]
      exact .finite s m e positive digits
    | finite s' m' e' positive' digits' =>
      have difference := writes_normalize
        (s.apply (decreaseExponent m e (min e e')).1 -
          s'.apply (decreaseExponent m' e' (min e e')).1)
        (min e e') .positive
      rw [Int.cast_sub, sub_mul, apply_decreaseExponent s m (min_le_left e e'),
        apply_decreaseExponent s' m' (min_le_right e e')] at difference
      exact difference

/-- The product is the exact one, rounded to the nearest double. -/
theorem mul (h : Writes u x) (h' : Writes v y) :
    Writes (UnpackedFloat.mul .binary64 u v) (nearest (x * y)) := by
  cases h with
  | zero s =>
    rw [zero_mul, nearest_zero]
    cases h' <;> exact .zero _
  | finite s m e positive digits =>
    cases h' with
    | zero s' =>
      rw [mul_zero, nearest_zero]
      exact .zero _
    | finite s' m' e' positive' digits' =>
      have product := writes_roundWithAccuracy (s * s') (Nat.mul_pos positive positive')
        (digits.le_unit_mul digits' positive positive')
      have exact : ((m * m' : ℕ) : ℚ) * 2 ^ (e + e') = m * 2 ^ e * (m' * 2 ^ e') := by
        rw [zpow_add₀ two_ne_zero]
        push_cast
        ring
      rw [← nearest_signed, exact, signed_mul] at product
      exact product

/-! Infinite operands and signs -/

theorem add_infinity (h : Writes u x) (s : Sign) :
    UnpackedFloat.add .binary64 u (.infinity s) = .infinity s := by
  cases h <;> rfl

theorem infinity_add (h : Writes u x) (s : Sign) :
    UnpackedFloat.add .binary64 (.infinity s) u = .infinity s := by
  cases h <;> rfl

theorem sub_infinity (h : Writes u x) (s : Sign) :
    UnpackedFloat.sub .binary64 u (.infinity s) = .infinity (-s) := by
  cases h <;> rfl

/-- What writes a number that is not negative has a positive sign, or is a zero. -/
theorem eq_zero_or_finite (h : Writes u x) (nonneg : 0 ≤ x) :
    (x = 0 ∧ ∃ s, u = .zero s) ∨ ∃ m e p, u = .finite .positive m e p := by
  cases h with
  | zero s => exact .inl ⟨rfl, s, rfl⟩
  | finite s m e p digits =>
    cases s with
    | negative => exact absurd (neg_nonneg.1 nonneg) (not_le.2 (mul_zpow_pos p e))
    | positive => exact .inr ⟨m, e, p, rfl⟩

theorem exists_eq_finite (h : Writes u x) (positive : 0 < x) :
    ∃ m e p, u = .finite .positive m e p :=
  (h.eq_zero_or_finite positive.le).resolve_left fun zero => positive.ne' zero.1

theorem infinity_mul (h : Writes u x) (positive : 0 < x) :
    UnpackedFloat.mul .binary64 (.infinity .positive) u = .infinity .positive := by
  obtain ⟨m, e, p, rfl⟩ := h.exists_eq_finite positive
  rfl

theorem isFinite_eq_true (h : Writes u x) : u.isFinite = true := by
  cases h <;> rfl

end Writes

end Double

end Throttle
