import Throttle.Arithmetic.Double
import Throttle.Proofs.Arithmetic.Packed
import Throttle.Proofs.Arithmetic.Rounding

/-!
# Doubles round exact results

Sums, differences and products of doubles are the exact results, rounded to the nearest double, and
to an infinite one beyond the range of doubles. So what is shown of arithmetics whose results are
rounded holds of the doubles with which the limiters run.

## Main definitions

* `Double.value? a`: the value of a double
* `Double.rounded x`: the value of the double nearest to `x`
* the instances `Arithmetic.Rounded Float` and `Arithmetic.Rounding Float`

## Main results

* `Double.value?_add`, `Double.value?_sub`, `Double.value?_mul`: sums, differences and products
* `Double.le_iff`: doubles are in the order of their values
* `Double.value?_ofNat`: whole numbers become the nearest doubles
* `Double.exists_value_div`: quotients of numbers that are not negative are not negative
-/

namespace Throttle

namespace Double

open Float.Model Float.Model.UnpackedFloat
open Arithmetic (Extended)

/-- The value of a double. -/
def value? (a : Float) : Option Extended := valueOf? a.toModel.unpack

/-- The value of the double nearest to `x`. -/
def rounded (x : ℚ) : Extended := clamp (nearest x)

theorem packed (a : Float) : Packed a.toModel.unpack (value? a) := packed_unpack _

theorem value?_pack {u : UnpackedFloat} {x : ℚ} (writes : Writes u x) :
    value? (.ofModel (.pack u)) = some (clamp x) :=
  writes.valueOf?_unpack_pack

/-- The value of a result that is infinite. -/
theorem value?_pack_eq {u : UnpackedFloat} {s : Sign} (infinite : u = .infinity s) :
    value? (.ofModel (.pack u)) = valueOf? (.infinity s) := by
  rw [infinite]
  exact congrArg valueOf? (unpack_pack_infinity s)

section Results

variable {a b : Float} {x y : ℚ}

theorem writes_of_value? (h : value? a = some (x : Extended)) :
    Writes a.toModel.unpack x ∧ |x| < limit :=
  (h ▸ packed a).writes

theorem eq_infinity_of_value? (h : value? a = some ⊤) :
    a.toModel.unpack = .infinity .positive :=
  (h ▸ packed a).eq_infinity

/-- A double is the nearest to itself. -/
theorem rounded_of_value? (h : value? a = some (x : Extended)) : rounded x = x := by
  obtain ⟨writes, within⟩ := writes_of_value? h
  rw [rounded, writes.nearest_eq, clamp_eq_self within]

theorem value?_add (ha : value? a = some (x : Extended)) (hb : value? b = some (y : Extended)) :
    value? (a + b) = some (rounded (x + y)) :=
  value?_pack ((writes_of_value? ha).1.add (writes_of_value? hb).1)

theorem value?_sub (ha : value? a = some (x : Extended)) (hb : value? b = some (y : Extended)) :
    value? (a - b) = some (rounded (x - y)) :=
  value?_pack ((writes_of_value? ha).1.sub (writes_of_value? hb).1)

theorem value?_mul (ha : value? a = some (x : Extended)) (hb : value? b = some (y : Extended)) :
    value? (a * b) = some (rounded (x * y)) :=
  value?_pack ((writes_of_value? ha).1.mul (writes_of_value? hb).1)

theorem value?_add_top (ha : value? a = some (x : Extended)) (hb : value? b = some ⊤) :
    value? (a + b) = some ⊤ := by
  have sum : UnpackedFloat.add .binary64 a.toModel.unpack b.toModel.unpack =
      .infinity .positive := by
    rw [eq_infinity_of_value? hb]
    exact (writes_of_value? ha).1.add_infinity .positive
  exact value?_pack_eq sum

/-- An infinite sum. -/
theorem value?_top_add {z : Extended} (ha : value? a = some ⊤) (hb : value? b = some z)
    (nonneg : 0 ≤ z) : value? (a + b) = some ⊤ := by
  have sum : UnpackedFloat.add .binary64 a.toModel.unpack b.toModel.unpack =
      .infinity .positive := by
    rw [eq_infinity_of_value? ha]
    obtain rfl | ⟨t, rfl, -⟩ := Extended.eq_top_or_exists nonneg
    · rw [eq_infinity_of_value? hb]
      rfl
    · exact (writes_of_value? hb).1.infinity_add .positive
  exact value?_pack_eq sum

theorem value?_sub_top (ha : value? a = some (x : Extended)) (hb : value? b = some ⊤) :
    value? (a - b) = some ⊥ := by
  have difference : UnpackedFloat.sub .binary64 a.toModel.unpack b.toModel.unpack =
      .infinity .negative := by
    rw [eq_infinity_of_value? hb]
    exact (writes_of_value? ha).1.sub_infinity .positive
  exact value?_pack_eq difference

theorem value?_top_mul (ha : value? a = some ⊤) (hb : value? b = some (x : Extended))
    (positive : 0 < x) : value? (a * b) = some ⊤ := by
  have product : UnpackedFloat.mul .binary64 a.toModel.unpack b.toModel.unpack =
      .infinity .positive := by
    rw [eq_infinity_of_value? ha]
    exact (writes_of_value? hb).1.infinity_mul positive
  exact value?_pack_eq product

theorem le_iff : a ≤ b ↔ ∃ x y, value? a = some x ∧ value? b = some y ∧ x ≤ y :=
  decide_eq_true_iff.trans ((packed a).le_iff (packed b))

theorem isFinite_iff : a.isFinite = true ↔ ∃ x : ℚ, value? a = some (x : Extended) :=
  (packed a).isFinite_iff

end Results

/-! ## Whole numbers -/

theorem rounded_mono : Monotone rounded := fun _ _ order => clamp_mono (nearest_mono order)

theorem rounded_zero : rounded 0 = 0 := by
  rw [rounded, nearest_zero, clamp_zero]

/-- Whole numbers of 64 bits are far from the limit. -/
theorem rounded_natCast {n : ℕ} (small : n < 2 ^ 64) :
    rounded n = ((nearest n : ℚ) : Extended) := by
  have digits : Digits (2 ^ 52) 12 := ⟨by norm_num, by norm_num, .inl le_rfl⟩
  have exact : ((2 ^ 52 : ℕ) : ℚ) * 2 ^ (12 : ℤ) = (2 ^ 64 : ℕ) := by norm_num
  have atMost : nearest n ≤ (2 ^ 52 : ℕ) * 2 ^ (12 : ℤ) := by
    rw [← nearest_of_digits digits, exact]
    exact nearest_mono (Nat.cast_le.2 small.le)
  have within : |nearest n| < limit := by
    rw [abs_of_nonneg (nearest_nonneg n.cast_nonneg)]
    exact atMost.trans_lt (digits.lt_limit_iff.2 (by norm_num))
  rw [rounded, clamp_eq_self within]

theorem rounded_natCast_nonneg (n : ℕ) : 0 ≤ rounded n :=
  rounded_zero.symm.trans_le (rounded_mono n.cast_nonneg)

theorem nearest_natCast_pos {n : ℕ} (positive : 0 < n) : 0 < nearest n := by
  have digits : Digits (2 ^ 52) (-52) := ⟨by norm_num, by norm_num, .inl le_rfl⟩
  have exact : ((2 ^ 52 : ℕ) : ℚ) * 2 ^ (-52 : ℤ) = (1 : ℕ) := by norm_num
  have atLeast : nearest (1 : ℕ) ≤ nearest n := nearest_mono (Nat.cast_le.2 positive)
  rw [← exact, nearest_of_digits digits, exact] at atLeast
  exact lt_of_lt_of_le (by norm_num) atLeast

theorem rounded_natCast_pos {n : ℕ} (positive : 0 < n) : 0 < rounded n := by
  have one : 0 < rounded (1 : ℕ) := by
    rw [rounded_natCast (by norm_num)]
    exact Extended.coe_pos.2 (nearest_natCast_pos one_pos)
  exact one.trans_le (rounded_mono (Nat.cast_le.2 positive))

theorem value?_toFloat {n : ℕ} (small : n < 2 ^ 64) :
    value? n.toUInt64.toFloat = some (rounded n) := by
  have same : n.toUInt64.toNat = n := Nat.mod_eq_of_lt small
  have converted : value? n.toUInt64.toFloat =
      some (clamp (nearest ((n.toUInt64.toNat : ℤ) * 2 ^ (0 : ℤ)))) :=
    value?_pack (writes_normalize _ 0 .positive)
  rw [converted, same, zpow_zero, mul_one, Int.cast_natCast, rounded]

/-- The conversion of a great number ends with a product. -/
theorem ofScientific_eq {n : ℕ} (positive : 0 < n) :
    UnpackedFloat.ofScientific .binary64 n 0 =
      roundWithAccuracy .binary64 .positive (n <<< 53 * 10 ^ 0) (-53 + 0) .exact := by
  have notGreat : ¬(0 : ℤ) > 2 ^ Format.binary64.exponentBits := by decide
  have notSmall : ¬(0 : ℤ) < -((2 ^ Format.binary64.exponentBits : ℤ) + n.log2) := by
    change ¬(0 : ℤ) < -(2048 + (n.log2 : ℤ))
    omega
  rw [UnpackedFloat.ofScientific, dif_neg positive.ne', if_neg notGreat, if_neg notSmall,
    if_pos le_rfl, UnpackedFloat.mul]
  rfl

theorem value?_ofScientific (n : ℕ) :
    value? (.ofModel (.ofScientific n 0)) = some (rounded n) := by
  rcases n.eq_zero_or_pos with zero | positive
  · subst zero
    rw [Nat.cast_zero, rounded_zero]
    exact congrArg valueOf? (unpack_pack_zero .positive)
  · have digits : 0 < n <<< 53 * 10 ^ 0 := by
      rw [Nat.shiftLeft_eq]
      omega
    have exact : ((n <<< 53 * 10 ^ 0 : ℕ) : ℚ) * 2 ^ (-53 + 0 : ℤ) = n * 2 ^ (0 : ℤ) := by
      rw [Nat.shiftLeft_eq, pow_zero, mul_one, Nat.cast_mul, mul_assoc]
      norm_num
    have fine : (-53 + 0 : ℤ) ≤ unit ((n <<< 53 * 10 ^ 0 : ℕ) * 2 ^ (-53 + 0 : ℤ)) := by
      rw [exact, unit_mul_zpow positive]
      omega
    have product := value?_pack (writes_roundWithAccuracy .positive digits fine)
    rw [exact, zpow_zero, mul_one, ← ofScientific_eq positive] at product
    exact product

theorem value?_one : value? (Float.ofBits 0x3FF0000000000000) = some ((1 : ℚ) : Extended) := by
  have unpacked : (Float.ofBits 0x3FF0000000000000).toModel.unpack =
      .finite .positive (2 ^ 52) (-52) (by norm_num) := by
    rfl
  rw [value?, unpacked, valueOf?, signed]
  norm_num

/-- Whole numbers become the nearest doubles. -/
theorem value?_ofNat (n : ℕ) : value? (Float.ofNat n) = some (rounded n) := by
  change value? (Float.ofScientific n false 0) = _
  unfold Float.ofScientific
  split
  · rename_i few
    have converted := value?_toFloat (n := n) (by omega)
    have finite := rounded_natCast (n := n) (by omega)
    rw [finite] at converted ⊢
    have product := value?_mul converted value?_one
    rw [mul_one, rounded_of_value? converted] at product
    exact product
  · exact value?_ofScientific n

/-! ## Quotients -/

/-- What is rounded with a positive sign is not below zero. -/
theorem exists_value_roundWithAccuracy (m : ℕ) (e : ℤ) (accuracy : Accuracy) :
    ∃ z, value? (.ofModel (.pack (roundWithAccuracy .binary64 .positive m e accuracy))) = some z ∧
      0 ≤ z := by
  unfold roundWithAccuracy
  dsimp only
  split
  · -- The digits are all lost.
    exact ⟨0, congrArg valueOf? (unpack_pack_zero .positive), le_rfl⟩
  · rename_i digits
    exact exists_value_pack (Nat.pos_of_ne_zero digits) _

/-- A quotient of numbers that are not negative is a number and not negative. -/
theorem exists_value_div {a b : Float} {x : Extended} {y : ℚ} (ha : value? a = some x)
    (nonneg : 0 ≤ x) (hb : value? b = some (y : Extended)) (positive : 0 < y) :
    ∃ z, value? (a / b) = some z ∧ 0 ≤ z := by
  obtain ⟨m', e', p', divisor⟩ := (writes_of_value? hb).1.exists_eq_finite positive
  have quotient : value? (a / b) =
      value? (.ofModel (.pack (UnpackedFloat.div .binary64 a.toModel.unpack b.toModel.unpack))) :=
    rfl
  rw [quotient, divisor]
  obtain rfl | ⟨t, rfl, finite⟩ := Extended.eq_top_or_exists nonneg
  · rw [eq_infinity_of_value? ha, UnpackedFloat.div]
    exact ⟨⊤, value?_pack_eq rfl, le_top⟩
  · obtain ⟨-, s, dividend⟩ | ⟨m, e, p, dividend⟩ :=
      (writes_of_value? ha).1.eq_zero_or_finite finite
    · rw [dividend, UnpackedFloat.div]
      exact ⟨0, (value?_pack (.zero _)).trans (congrArg some clamp_zero), le_rfl⟩
    · rw [dividend, UnpackedFloat.div]
      exact exists_value_roundWithAccuracy _ _ _

end Double

/-- Doubles are rounded to the nearest. -/
instance : Arithmetic.Rounded Float where
  value? := Double.value?
  rounded := Double.rounded
  rounded_mono := Double.rounded_mono
  rounded_zero := Double.rounded_zero
  rounded_of_value? := Double.rounded_of_value?
  le_iff := Double.le_iff
  isFinite_iff := Double.isFinite_iff
  value?_natCast := Double.value?_ofNat
  rounded_natCast _ small := ⟨_, Double.rounded_natCast small⟩
  value?_add := Double.value?_add
  value?_sub := Double.value?_sub
  value?_mul := Double.value?_mul
  value?_add_top := Double.value?_add_top
  value?_sub_top := Double.value?_sub_top
  value?_top_mul := Double.value?_top_mul
  natCast_div _ _ positive small :=
    Double.exists_value_div (Double.value?_ofNat _) (Double.rounded_natCast_nonneg _)
      ((Double.value?_ofNat _).trans (congrArg some (Double.rounded_natCast small)))
      (Double.nearest_natCast_pos positive)

section Signs

open Arithmetic

/-- Doubles keep the sign of what is gained or drained. -/
instance : Rounding Float where
  natCast_le_self n :=
    (le_iff_of_value? (Rounded.value?_natCast n) (Rounded.value?_natCast n)).2 le_rfl
  natCast_nonneg n :=
    (le_iff_of_value? value?_zero (Rounded.value?_natCast n)).2 (rounded_nonneg n.cast_nonneg)
  natCast_pos n positive := by
    rw [le_iff_of_value? (Rounded.value?_natCast n) value?_zero, not_le]
    exact Double.rounded_natCast_pos positive
  elapsed_nonneg earlier later := by
    obtain ⟨y, value, nonneg⟩ := exists_elapsed (α := Float) earlier later
    exact (le_iff_of_value? value?_zero value).2 nonneg
  mul_nonneg a rate nonneg valid := by
    obtain ⟨y, value, nonneg⟩ := exists_value_of_nonneg nonneg
    obtain ⟨z, product, nonneg⟩ := exists_mul value nonneg valid
    exact (le_iff_of_value? value?_zero product).2 nonneg
  natCast_le_add n a nonneg := by
    obtain ⟨y, value, nonneg⟩ := exists_value_of_nonneg nonneg
    have whole := Rounded.value?_natCast (α := Float) n
    have atLeast := rounded_nonneg (α := Float) n.cast_nonneg
    obtain infinite | ⟨t, finite, -⟩ := Extended.eq_top_or_exists atLeast
    · rw [infinite] at whole
      exact (le_iff_of_value? whole (Double.value?_top_add whole value nonneg)).2 le_rfl
    · rw [finite] at whole
      obtain ⟨z, sum, more⟩ := exists_add whole value nonneg
      exact (le_iff_of_value? whole sum).2 more
  zero_sub_le a nonneg := by
    obtain ⟨y, value, nonneg⟩ := exists_value_of_nonneg nonneg
    have zero : Rounded.value? ((0 : ℕ) : Float) = some ((0 : ℚ) : Extended) := value?_zero
    obtain ⟨z, difference, less⟩ := exists_sub zero value nonneg
    exact (le_iff_of_value? difference value?_zero).2 less

end Signs

end Throttle
