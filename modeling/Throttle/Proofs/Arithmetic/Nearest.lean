import Mathlib.Algebra.Order.Field.Rat
import Mathlib.Algebra.Order.Round
import Mathlib.Data.Int.Log
import Mathlib.Data.Rat.Floor
import Mathlib.Tactic.Linarith
import Mathlib.Tactic.Positivity
import Mathlib.Tactic.Ring
import Throttle.Arithmetic

/-!
# The nearest double

An exact result is rounded to the nearest number whose digits fit a double, and to the one with an
even last digit if two are equally near. As long as no bound is set to the exponent, this is a
function on the rational numbers: it scales its argument until the last digit counts units, and
rounds to a whole number there. It keeps the order of its arguments although the scale depends on
them: wherever the scale changes there is a power of two, which both scales can write.

## Main definitions

* `Double.halfEven x`: the whole number nearest to `x`, the even one of two
* `Double.unit x`: the exponent of the last digit that a double near `x` has
* `Double.nearest x`: the nearest number with 53 binary digits, none of them below `2 ^ -1074`
* `Double.Digits m e`: the digits `m` of a double, of which the last counts `2 ^ e`

## Main results

* `Double.nearest_mono`: the nearest numbers are in the order of the numbers
* `Double.nearest_of_digits`: a number that a double can write is the nearest to itself
-/

namespace Throttle

namespace Double

/-! ## Whole numbers -/

/-- The whole number nearest to `x`, the even one of two. -/
def halfEven (x : ℚ) : ℤ :=
  if Int.fract x < 1 / 2 then ⌊x⌋
  else if Int.fract x = 1 / 2 then ⌊x⌋ + ⌊x⌋ % 2
  else ⌊x⌋ + 1

theorem floor_le_halfEven (x : ℚ) : ⌊x⌋ ≤ halfEven x := by
  unfold halfEven
  split_ifs <;> omega

theorem halfEven_le_floor_add_one (x : ℚ) : halfEven x ≤ ⌊x⌋ + 1 := by
  unfold halfEven
  split_ifs <;> omega

theorem halfEven_of_lt {x : ℚ} (less : Int.fract x < 1 / 2) : halfEven x = ⌊x⌋ := if_pos less

theorem halfEven_of_eq {x : ℚ} (half : Int.fract x = 1 / 2) : halfEven x = ⌊x⌋ + ⌊x⌋ % 2 := by
  rw [halfEven, if_neg half.not_lt, if_pos half]

theorem halfEven_of_gt {x : ℚ} (more : 1 / 2 < Int.fract x) : halfEven x = ⌊x⌋ + 1 := by
  rw [halfEven, if_neg more.not_gt, if_neg more.ne']

/-- Between the same two whole numbers, more does not round to less. -/
theorem halfEven_le_of_floor_eq {x y : ℚ} (order : x ≤ y) (same : ⌊x⌋ = ⌊y⌋) :
    halfEven x ≤ halfEven y := by
  have fractions : Int.fract x ≤ Int.fract y := by
    rw [Int.fract, Int.fract, same]
    linarith
  rcases lt_trichotomy (Int.fract x) (1 / 2) with less | half | more
  · rw [halfEven_of_lt less, same]
    exact floor_le_halfEven y
  · rcases (half ▸ fractions).eq_or_lt with half' | more'
    · rw [halfEven_of_eq half, halfEven_of_eq half'.symm, same]
    · rw [halfEven_of_eq half, halfEven_of_gt more', same]
      omega
  · rw [halfEven_of_gt more, halfEven_of_gt (more.trans_le fractions), same]

theorem halfEven_mono {x y : ℚ} (order : x ≤ y) : halfEven x ≤ halfEven y := by
  rcases (Int.floor_mono order).eq_or_lt with same | less
  · exact halfEven_le_of_floor_eq order same
  · calc halfEven x ≤ ⌊x⌋ + 1 := halfEven_le_floor_add_one x
      _ ≤ ⌊y⌋ := less
      _ ≤ halfEven y := floor_le_halfEven y

@[simp] theorem halfEven_intCast (z : ℤ) : halfEven z = z := by
  simp [halfEven]

/-- A whole number and a fraction, taken apart. -/
theorem floor_and_fract_add {m : ℤ} {r : ℚ} (nonneg : 0 ≤ r) (less : r < 1) :
    ⌊(m : ℚ) + r⌋ = m ∧ Int.fract ((m : ℚ) + r) = r := by
  rw [Int.floor_intCast_add, Int.fract_intCast_add, Int.floor_eq_zero_iff.2 ⟨nonneg, less⟩,
    Int.fract_eq_self.2 ⟨nonneg, less⟩]
  exact ⟨add_zero m, rfl⟩

/-- The digits below a whole number are rounded alike on both sides of zero. -/
theorem halfEven_neg (x : ℚ) : halfEven (-x) = -halfEven x := by
  have apart := Int.floor_add_fract x
  rcases (Int.fract_nonneg x).eq_or_lt with whole | between
  · have exact : x = (⌊x⌋ : ℤ) := by linarith
    rw [exact, ← Int.cast_neg, halfEven_intCast, halfEven_intCast]
  · -- The fraction of the mirrored number is what was missing to the next whole number.
    have mirrored : -x = ((-⌊x⌋ - 1 : ℤ) : ℚ) + (1 - Int.fract x) := by
      push_cast
      linarith
    obtain ⟨floor, fract⟩ := floor_and_fract_add (m := -⌊x⌋ - 1) (r := 1 - Int.fract x)
      (by linarith [Int.fract_lt_one x]) (by linarith)
    rw [← mirrored] at floor fract
    rcases lt_trichotomy (Int.fract x) (1 / 2) with less | half | more
    · rw [halfEven_of_lt less, halfEven_of_gt (by linarith), floor]
      omega
    · rw [halfEven_of_eq half, halfEven_of_eq (by linarith), floor]
      omega
    · rw [halfEven_of_gt more, halfEven_of_lt (by linarith), floor]
      omega

/-! ## Numbers with a last digit -/

/-- The exponent of the last digit that a double near `x` has: the last of 53 digits, but none below
`2 ^ -1074`. -/
def unit (x : ℚ) : ℤ := max (Int.log 2 |x| - 52) (-1074)

/-- The nearest number with 53 binary digits, none of them below `2 ^ -1074`. -/
def nearest (x : ℚ) : ℚ := halfEven (x / 2 ^ unit x) * 2 ^ unit x

/-- The digits `m` of a double, of which the last counts `2 ^ e`. There are 53 of them unless the
last one is the least of all. -/
structure Digits (m : ℕ) (e : ℤ) : Prop where
  short : m < 2 ^ 53
  least : -1074 ≤ e
  full : 2 ^ 52 ≤ m ∨ e = -1074

theorem two_zpow_pos (e : ℤ) : (0 : ℚ) < 2 ^ e := zpow_pos two_pos e

@[simp] theorem nearest_zero : nearest 0 = 0 := by
  have zero : halfEven 0 = 0 := by exact_mod_cast halfEven_intCast 0
  rw [nearest, zero_div, zero, Int.cast_zero, zero_mul]

theorem nearest_neg (x : ℚ) : nearest (-x) = -nearest x := by
  rw [nearest, unit, abs_neg, neg_div, halfEven_neg, nearest, unit]
  push_cast
  ring

/-- The nearest number is on the same side of what the scale of `x` can write. -/
theorem nearest_le {x : ℚ} {z : ℤ} (le : x ≤ z * 2 ^ unit x) : nearest x ≤ z * 2 ^ unit x := by
  have scaled : x / 2 ^ unit x ≤ z := (div_le_iff₀ (two_zpow_pos _)).2 le
  have rounded : halfEven (x / 2 ^ unit x) ≤ z := by
    simpa using halfEven_mono scaled
  exact mul_le_mul_of_nonneg_right (by exact_mod_cast rounded) (two_zpow_pos _).le

theorem le_nearest {x : ℚ} {z : ℤ} (le : z * 2 ^ unit x ≤ x) : z * 2 ^ unit x ≤ nearest x := by
  have scaled : (z : ℚ) ≤ x / 2 ^ unit x := (le_div_iff₀ (two_zpow_pos _)).2 le
  have rounded : z ≤ halfEven (x / 2 ^ unit x) := by
    simpa using halfEven_mono scaled
  exact mul_le_mul_of_nonneg_right (by exact_mod_cast rounded) (two_zpow_pos _).le

/-- A power of two is written on every finer scale. -/
theorem two_zpow_eq_mul {k u : ℤ} (finer : u ≤ k) :
    (2 : ℚ) ^ k = ((2 ^ (k - u).toNat : ℤ) : ℚ) * 2 ^ u := by
  push_cast
  rw [← zpow_natCast, Int.toNat_of_nonneg (by omega), ← zpow_add₀ two_ne_zero]
  congr 1
  omega

theorem nearest_nonneg {x : ℚ} (nonneg : 0 ≤ x) : 0 ≤ nearest x := by
  have := le_nearest (x := x) (z := 0) (by simpa using nonneg)
  simpa using this

theorem unit_mono {x y : ℚ} (positive : 0 < x) (order : x ≤ y) : unit x ≤ unit y := by
  rw [unit, unit, abs_of_pos positive, abs_of_pos (positive.trans_le order)]
  exact max_le_max_right _ (Int.sub_le_sub_right (Int.log_mono_right positive order) _)

/-- Where the scale changes, there is a power of two between. -/
theorem exists_two_zpow_between {x y : ℚ} (positive : 0 < x) (order : x ≤ y)
    (coarser : unit x < unit y) :
    ∃ k, unit y ≤ k ∧ x ≤ 2 ^ k ∧ (2 : ℚ) ^ k ≤ y := by
  have positive' := positive.trans_le order
  refine ⟨Int.log 2 y, ?_, ?_, ?_⟩
  · rw [unit, unit, abs_of_pos positive, abs_of_pos positive'] at coarser
    rw [unit, abs_of_pos positive']
    omega
  · have less : Int.log 2 x + 1 ≤ Int.log 2 y := by
      rw [unit, unit, abs_of_pos positive, abs_of_pos positive'] at coarser
      omega
    have above : x < (2 : ℕ) ^ (Int.log 2 x + 1) := Int.lt_zpow_succ_log_self one_lt_two x
    exact above.le.trans (zpow_le_zpow_right₀ one_le_two less)
  · exact Int.zpow_log_le_self one_lt_two positive'

theorem nearest_le_nearest_of_pos {x y : ℚ} (positive : 0 < x) (order : x ≤ y) :
    nearest x ≤ nearest y := by
  rcases (unit_mono positive order).eq_or_lt with same | coarser
  · have scaled : x / 2 ^ unit y ≤ y / 2 ^ unit y :=
      div_le_div_of_nonneg_right order (two_zpow_pos _).le
    rw [nearest, nearest, same]
    exact mul_le_mul_of_nonneg_right (by exact_mod_cast halfEven_mono scaled) (two_zpow_pos _).le
  · obtain ⟨k, fine, above, below⟩ := exists_two_zpow_between positive order coarser
    have left := two_zpow_eq_mul (coarser.le.trans fine)
    have right := two_zpow_eq_mul fine
    calc nearest x ≤ 2 ^ k := left ▸ nearest_le (left ▸ above)
      _ ≤ nearest y := right ▸ le_nearest (right ▸ below)

/-- The nearest numbers are in the order of the numbers. -/
theorem nearest_mono : Monotone nearest := by
  -- On the positive numbers this is shown; zero separates the signs, and they mirror each other.
  have nonneg {x y : ℚ} (start : 0 ≤ x) (order : x ≤ y) : nearest x ≤ nearest y := by
    rcases start.eq_or_lt with zero | positive
    · rw [← zero, nearest_zero]
      exact nearest_nonneg (start.trans order)
    · exact nearest_le_nearest_of_pos positive order
  intro x y order
  rcases le_total 0 x with start | start
  · exact nonneg start order
  · rcases le_total 0 y with middle | middle
    · have mirrored := nearest_nonneg (neg_nonneg.2 start)
      rw [nearest_neg] at mirrored
      exact (neg_nonneg.1 mirrored).trans (nearest_nonneg middle)
    · have mirrored := nonneg (neg_nonneg.2 middle) (neg_le_neg order)
      rw [nearest_neg, nearest_neg] at mirrored
      exact neg_le_neg_iff.1 mirrored

/-- At its own scale a number has at most 53 digits, apart from one that is rounded up to the next
power of two. It has that many unless the scale is the finest. -/
theorem halfEven_unit_bounds {x : ℚ} (positive : 0 < x) :
    halfEven (x / 2 ^ unit x) ≤ 2 ^ 53 ∧
      (2 ^ 52 ≤ halfEven (x / 2 ^ unit x) ∨ unit x = -1074) := by
  have unit_eq : unit x = max (Int.log 2 x - 52) (-1074) := by rw [unit, abs_of_pos positive]
  constructor
  · have above : x < (2 : ℕ) ^ (Int.log 2 x + 1) := Int.lt_zpow_succ_log_self one_lt_two x
    have power : x ≤ 2 ^ (unit x + 53) :=
      above.le.trans (zpow_le_zpow_right₀ one_le_two (by omega))
    have scaled : x / 2 ^ unit x ≤ ((2 ^ 53 : ℤ) : ℚ) := by
      rw [div_le_iff₀ (two_zpow_pos _)]
      rw [two_zpow_eq_mul (by omega : unit x ≤ unit x + 53), add_sub_cancel_left] at power
      exact power
    exact (halfEven_mono scaled).trans_eq (halfEven_intCast _)
  · by_cases finest : unit x = -1074
    · exact .inr finest
    · have below : (2 : ℕ) ^ Int.log 2 x ≤ x := Int.zpow_log_le_self one_lt_two positive
      have power : (2 : ℚ) ^ (unit x + 52) ≤ x :=
        (zpow_le_zpow_right₀ one_le_two (by omega)).trans below
      have scaled : ((2 ^ 52 : ℤ) : ℚ) ≤ x / 2 ^ unit x := by
        rw [le_div_iff₀ (two_zpow_pos _)]
        rw [two_zpow_eq_mul (by omega : unit x ≤ unit x + 52), add_sub_cancel_left] at power
        exact power
      exact .inl ((halfEven_intCast _).symm.trans_le (halfEven_mono scaled))

/-! ## What a double can write -/

theorem mul_zpow_pos {m : ℕ} (positive : 0 < m) (e : ℤ) : (0 : ℚ) < m * 2 ^ e :=
  mul_pos (Nat.cast_pos.2 positive) (two_zpow_pos e)

/-- The logarithm of a number is that of its digits, moved by the place of the last one. -/
theorem log_mul_zpow {m : ℕ} (positive : 0 < m) (e : ℤ) :
    Int.log 2 ((m : ℚ) * 2 ^ e) = m.log2 + e := by
  have lower : (2 : ℚ) ^ m.log2 ≤ m := by exact_mod_cast Nat.log2_self_le positive.ne'
  have upper : (m : ℚ) < 2 ^ (m.log2 + 1) := by exact_mod_cast Nat.lt_log2_self
  have exponent (k : ℕ) : (2 : ℚ) ^ ((k : ℤ) + e) = 2 ^ k * 2 ^ e := by
    rw [zpow_add₀ two_ne_zero, zpow_natCast]
  refine le_antisymm (Int.lt_add_one_iff.1 ?_) ?_
  · have place : (m.log2 : ℤ) + e + 1 = (m.log2 + 1 : ℕ) + e := by
      push_cast
      ring
    rw [← Int.lt_zpow_iff_log_lt one_lt_two (mul_zpow_pos positive e), place, Nat.cast_ofNat,
      exponent]
    exact mul_lt_mul_of_pos_right upper (two_zpow_pos e)
  · rw [← Int.zpow_le_iff_le_log one_lt_two (mul_zpow_pos positive e), Nat.cast_ofNat, exponent]
    exact mul_le_mul_of_nonneg_right lower (two_zpow_pos e).le

/-- The scale of a number that is written with the digits `m`. -/
theorem unit_mul_zpow {m : ℕ} (positive : 0 < m) (e : ℤ) :
    unit (m * 2 ^ e) = max (m.log2 + e - 52) (-1074) := by
  rw [unit, abs_of_pos (mul_zpow_pos positive e), log_mul_zpow positive]

theorem Digits.unit_eq {m : ℕ} {e : ℤ} (digits : Digits m e) (positive : 0 < m) :
    unit (m * 2 ^ e) = e := by
  have short : m.log2 < 53 := (Nat.log2_lt positive.ne').2 digits.short
  have least := digits.least
  rw [unit_mul_zpow positive]
  rcases digits.full with full | least'
  · have : 52 ≤ m.log2 := (Nat.le_log2 positive.ne').2 full
    omega
  · omega

/-- A number that a double can write is the nearest to itself. -/
theorem nearest_of_digits {m : ℕ} {e : ℤ} (digits : Digits m e) :
    nearest (m * 2 ^ e) = m * 2 ^ e := by
  rcases m.eq_zero_or_pos with zero | positive
  · subst zero
    simp
  · rw [nearest, digits.unit_eq positive, mul_div_cancel_right₀ _ (two_zpow_pos e).ne',
      ← Int.cast_natCast, halfEven_intCast]

end Double

end Throttle
