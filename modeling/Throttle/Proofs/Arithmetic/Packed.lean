import Throttle.Proofs.Arithmetic.Rounded
import Throttle.Proofs.Arithmetic.Unpacked

/-!
# Doubles in 64 bits

A double is packed into a sign, eleven bits for the place of its last digit and 52 bits for its
digits, of which the leading one is left out. What has the digits of a double is packed without loss
as long as its last place is not too far up, and becomes infinite otherwise. So every double has a
value, which is rational or infinite, unless it is not a number, and doubles compare as their values
do.

## Main definitions

* `Double.limit`: the least power of two that no double reaches
* `Double.clamp x`: the value of `x`, which is infinite if it reaches the limit
* `Double.valueOf? u`: the value of a double taken apart
* `Double.Packed u x`: a double taken apart as it is packed, with its value

## Main results

* `Double.packed_unpack`: what all patterns of bits stand for
* `Double.Writes.valueOf?_unpack_pack`: the value of what is packed
* `Double.Packed.le_iff`: doubles are in the order of their values
-/

namespace Throttle

namespace Double

open Float.Model Float.Model.UnpackedFloat
open Arithmetic (Extended)

/-! ## Patterns of bits -/

/-- The digits of a normal double: the leading one is not stored. -/
theorem toNat_one_append (mantissa : BitVec 52) :
    (1#1 ++ mantissa).toNat = 2 ^ 52 + mantissa.toNat := by
  rw [BitVec.toNat_append, ← Nat.shiftLeft_add_eq_or_of_lt mantissa.isLt]
  rfl

theorem toNat_pos_of_ne_zero {mantissa : BitVec 52} (inexact : mantissa ≠ 0#52) :
    0 < mantissa.toNat := by
  rwa [BitVec.toNat_pos, BitVec.pos_iff_ne_zero]

/-- What the three components of a double stand for. -/
def ofComponents (s : Sign) (exponent : BitVec 11) (mantissa : BitVec 52) : UnpackedFloat :=
  if exponent = -1#11 then
    if mantissa = 0#52 then .infinity s else .notANumber
  else if exponent = 0#11 then
    if h : mantissa = 0#52 then .zero s
    else .finite s mantissa.toNat (-1074) (toNat_pos_of_ne_zero h)
  else .finite s (2 ^ 52 + mantissa.toNat) (exponent.toNat - 1075) (by omega)

theorem unpack_eq (b : BitVec Format.binary64.numBits) :
    UnpackedFloat.unpack .binary64 b =
      ofComponents (Sign.ofBitVec (unpackSign b)) (unpackExponent b) (unpackMantissa b) := by
  rw [UnpackedFloat.unpack, ofComponents]
  simp only [← toNat_one_append]
  split
  · rfl
  · split
    · rename_i lowest
      rw [lowest]
      rfl
    · rfl

theorem unpack_packComponents (s : Sign) (exponent : BitVec 11) (mantissa : BitVec 52) :
    UnpackedFloat.unpack .binary64 (packComponents .binary64 s exponent mantissa) =
      ofComponents s exponent mantissa := by
  rw [unpack_eq, unpackSign_packComponents, unpackExponent_packComponents,
    unpackMantissa_packComponents, Sign.ofBitVec_toBitVec]

theorem unpack_packedInfinity (s : Sign) :
    UnpackedFloat.unpack .binary64 (packedInfinity .binary64 s) = .infinity s :=
  unpack_packComponents s _ _

theorem unpack_pack_infinity (s : Sign) :
    UnpackedFloat.unpack .binary64 (UnpackedFloat.pack .binary64 (.infinity s)) = .infinity s :=
  unpack_packComponents s _ _

theorem unpack_pack_zero (s : Sign) :
    UnpackedFloat.unpack .binary64 (UnpackedFloat.pack .binary64 (.zero s)) = .zero s :=
  unpack_packComponents s _ _

/-- How digits are packed. -/
theorem pack_finite_eq (s : Sign) {m : ℕ} (positive : 0 < m) (e : ℤ) :
    UnpackedFloat.pack .binary64 (.finite s m e positive) =
      if 2048 ≤ (e + 1023 + 52).toNat + 1 then packedInfinity .binary64 s
      else if m.log2 + 1 = 53 then
        packComponents .binary64 s (BitVec.ofNat 11 (e + 1023 + 52).toNat) (BitVec.ofNat 52 m)
      else packComponents .binary64 s 0#11 (BitVec.ofNat 52 m) := rfl

theorem unpack_pack_normal (s : Sign) {m : ℕ} (positive : 0 < m) {e : ℤ} (least : -1074 ≤ e)
    (greatest : e ≤ 971) (long : 2 ^ 52 ≤ m) (short : m < 2 ^ 53) :
    UnpackedFloat.unpack .binary64 (UnpackedFloat.pack .binary64 (.finite s m e positive)) =
      .finite s m e positive := by
  have log : m.log2 + 1 = 53 := by
    have := (Nat.le_log2 positive.ne').2 long
    have := (Nat.log2_lt positive.ne').2 short
    omega
  have exponent : (BitVec.ofNat 11 (e + 1023 + 52).toNat).toNat = (e + 1075).toNat := by
    rw [BitVec.toNat_ofNat]
    omega
  have digits : 2 ^ 52 + (BitVec.ofNat 52 m).toNat = m := by
    rw [BitVec.toNat_ofNat]
    omega
  have finite : BitVec.ofNat 11 (e + 1023 + 52).toNat ≠ -1#11 := fun all => by
    rw [all] at exponent
    change 2047 = _ at exponent
    omega
  have notLowest : BitVec.ofNat 11 (e + 1023 + 52).toNat ≠ 0#11 := fun none => by
    rw [none] at exponent
    change 0 = _ at exponent
    omega
  rw [pack_finite_eq, if_neg (by omega), if_pos log, unpack_packComponents, ofComponents,
    if_neg finite, if_neg notLowest]
  simp only [digits, exponent]
  congr 1
  omega

theorem unpack_pack_subnormal (s : Sign) {m : ℕ} (positive : 0 < m) (short : m < 2 ^ 52) :
    UnpackedFloat.unpack .binary64 (UnpackedFloat.pack .binary64 (.finite s m (-1074) positive)) =
      .finite s m (-1074) positive := by
  have log : ¬m.log2 + 1 = 53 := by
    have := (Nat.log2_lt positive.ne').2 short
    omega
  have digits : (BitVec.ofNat 52 m).toNat = m := by
    rw [BitVec.toNat_ofNat]
    omega
  have inexact : BitVec.ofNat 52 m ≠ 0#52 := fun none => by
    rw [none] at digits
    change 0 = _ at digits
    omega
  rw [pack_finite_eq, if_neg (by decide), if_neg log, unpack_packComponents, ofComponents,
    if_neg (by decide), if_pos rfl, dif_neg inexact]
  simp only [digits]

/-- Digits that are not too far up are packed without loss, and the others are infinite. -/
theorem unpack_pack_finite (s : Sign) {m : ℕ} (positive : 0 < m) {e : ℤ} (digits : Digits m e) :
    UnpackedFloat.unpack .binary64 (UnpackedFloat.pack .binary64 (.finite s m e positive)) =
      if e ≤ 971 then .finite s m e positive else .infinity s := by
  have least := digits.least
  split
  · rename_i greatest
    rcases digits.full with long | lowest
    · exact unpack_pack_normal s positive least greatest long digits.short
    · subst lowest
      rcases lt_or_ge m (2 ^ 52) with short | long
      · exact unpack_pack_subnormal s positive short
      · exact unpack_pack_normal s positive least greatest long digits.short
  · rw [pack_finite_eq, if_pos (by omega)]
    exact unpack_packedInfinity s

/-! ## The range of doubles -/

/-- The least power of two that no double reaches. -/
def limit : ℚ := 2 ^ (1024 : ℤ)

theorem limit_pos : 0 < limit := two_zpow_pos _

theorem limit_eq (k : ℕ) : limit = (2 ^ k : ℕ) * 2 ^ (1024 - k : ℤ) := by
  rw [limit, Nat.cast_pow, Nat.cast_ofNat, ← zpow_natCast, ← zpow_add₀ two_ne_zero]
  congr 1
  omega

/-- Digits are below the limit unless their last place is too far up. -/
theorem Digits.lt_limit_iff {m : ℕ} {e : ℤ} (digits : Digits m e) :
    (m : ℚ) * 2 ^ e < limit ↔ e ≤ 971 := by
  constructor
  · intro less
    by_contra far
    have long : ((2 ^ 52 : ℕ) : ℚ) ≤ m := by
      exact_mod_cast digits.full.resolve_right (by omega)
    have reached : limit ≤ m * 2 ^ e := by
      rw [limit_eq 52]
      exact mul_le_mul long (zpow_le_zpow_right₀ one_le_two (by omega)) (two_zpow_pos _).le
        m.cast_nonneg
    exact absurd less (not_lt.2 reached)
  · intro near
    have short : (m : ℚ) < (2 ^ 53 : ℕ) := by exact_mod_cast digits.short
    rw [limit_eq 53]
    exact mul_lt_mul_of_pos_of_nonneg' short (zpow_le_zpow_right₀ one_le_two (by omega))
      (two_zpow_pos _) (Nat.cast_nonneg _)

/-- A number that reaches the limit is infinite. -/
def clamp (x : ℚ) : Extended :=
  if x ≤ -limit then ⊥ else if limit ≤ x then ⊤ else (x : Extended)

theorem clamp_eq_self {x : ℚ} (within : |x| < limit) : clamp x = x := by
  obtain ⟨above, below⟩ := abs_lt.1 within
  rw [clamp, if_neg (not_le.2 above), if_neg (not_le.2 below)]

@[simp] theorem clamp_zero : clamp 0 = 0 :=
  clamp_eq_self (abs_zero.trans_lt limit_pos)

theorem clamp_eq_bot {x : ℚ} (low : x ≤ -limit) : clamp x = ⊥ := if_pos low

theorem clamp_eq_top {x : ℚ} (high : limit ≤ x) : clamp x = ⊤ := by
  rw [clamp, if_neg (by linarith [limit_pos]), if_pos high]

theorem clamp_mono : Monotone clamp := by
  intro x y order
  rcases le_or_gt x (-limit) with low | above
  · rw [clamp_eq_bot low]
    exact bot_le
  · rcases le_or_gt limit y with high | below
    · rw [clamp_eq_top high]
      exact le_top
    · rw [clamp_eq_self (abs_lt.2 ⟨above, order.trans_lt below⟩),
        clamp_eq_self (abs_lt.2 ⟨above.trans_le order, below⟩)]
      exact WithBotTop.coe_monotone order

/-! ## Values -/

/-- The value of a double taken apart. -/
def valueOf? : UnpackedFloat → Option Extended
  | .notANumber => none
  | .infinity .negative => some ⊥
  | .infinity .positive => some ⊤
  | .zero _ => some 0
  | .finite s m e _ => some ((signed s (m * 2 ^ e) : ℚ) : Extended)

theorem abs_signed (s : Sign) (x : ℚ) : |signed s x| = |x| := by
  cases s with
  | negative => exact abs_neg x
  | positive => rfl

/-- A double as it is packed, with its value. -/
inductive Packed : UnpackedFloat → Option Extended → Prop where
  | notANumber : Packed .notANumber none
  | bot : Packed (.infinity .negative) (some ⊥)
  | top : Packed (.infinity .positive) (some ⊤)
  | number {u : UnpackedFloat} {x : ℚ} (writes : Writes u x) (within : |x| < limit) :
    Packed u (some (x : Extended))

namespace Packed

variable {u : UnpackedFloat} {x : ℚ}

theorem writes (h : Packed u (some (x : Extended))) : Writes u x ∧ |x| < limit := by
  generalize value : some (x : Extended) = y at h
  cases h with
  | notANumber => cases value
  | bot => exact absurd (Option.some.inj value) (WithBotTop.coe_ne_bot x)
  | top => exact absurd (Option.some.inj value) (WithBotTop.coe_ne_top x)
  | number writes within =>
    simp only [Option.some.injEq, Extended.coe_inj] at value
    exact value ▸ ⟨writes, within⟩

theorem eq_infinity (h : Packed u (some ⊤)) : u = .infinity .positive := by
  generalize value : some (⊤ : Extended) = y at h
  cases h with
  | notANumber => cases value
  | bot => simp at value
  | top => rfl
  | number writes within => exact absurd (Option.some.inj value).symm (WithBotTop.coe_ne_top _)

/-- The finite doubles are those with a rational value. -/
theorem isFinite_iff {y : Option Extended} (h : Packed u y) :
    u.isFinite = true ↔ ∃ x : ℚ, y = some (x : Extended) := by
  cases h with
  | notANumber => simp [UnpackedFloat.isFinite]
  | bot =>
    exact iff_of_false Bool.false_ne_true fun ⟨x, h⟩ =>
      WithBotTop.coe_ne_bot x (Option.some.inj h).symm
  | top =>
    exact iff_of_false Bool.false_ne_true fun ⟨x, h⟩ =>
      WithBotTop.coe_ne_top x (Option.some.inj h).symm
  | number writes within => exact iff_of_true writes.isFinite_eq_true ⟨_, rfl⟩

end Packed

theorem packed_ofComponents (s : Sign) (exponent : BitVec 11) (mantissa : BitVec 52) :
    Packed (ofComponents s exponent mantissa) (valueOf? (ofComponents s exponent mantissa)) := by
  have number {m : ℕ} {e : ℤ} (positive : 0 < m) (digits : Digits m e) (within : e ≤ 971) :
      Packed (.finite s m e positive) (valueOf? (.finite s m e positive)) := by
    refine .number (.finite s m e positive digits) ?_
    rw [abs_signed, abs_of_pos (mul_zpow_pos positive e)]
    exact digits.lt_limit_iff.2 within
  have short := mantissa.isLt
  have last := exponent.isLt
  unfold ofComponents
  split
  · split
    · cases s
      · exact .bot
      · exact .top
    · exact .notANumber
  · rename_i finite
    have finite : exponent.toNat ≠ 2047 := fun all => finite (BitVec.eq_of_toNat_eq all)
    split
    · split
      · exact .number (.zero s) (abs_zero.trans_lt limit_pos)
      · exact number _ ⟨by omega, by omega, .inr rfl⟩ (by omega)
    · rename_i normal
      have normal : exponent.toNat ≠ 0 := fun none => normal (BitVec.eq_of_toNat_eq none)
      exact number _ ⟨by omega, by omega, .inl (by omega)⟩ (by omega)

theorem packed_unpack (b : BitVec Format.binary64.numBits) :
    Packed (UnpackedFloat.unpack .binary64 b) (valueOf? (UnpackedFloat.unpack .binary64 b)) := by
  rw [unpack_eq]
  exact packed_ofComponents _ _ _

/-- A number that is written with the digits of a double is packed without loss, unless it reaches
the limit. -/
theorem Writes.valueOf?_unpack_pack {u : UnpackedFloat} {x : ℚ} (h : Writes u x) :
    valueOf? (UnpackedFloat.unpack .binary64 (UnpackedFloat.pack .binary64 u)) =
      some (clamp x) := by
  cases h with
  | zero s =>
    rw [unpack_pack_zero, clamp_zero]
    rfl
  | finite s m e positive digits =>
    rw [unpack_pack_finite s positive digits]
    split
    · rename_i near
      rw [clamp_eq_self]
      · rfl
      · rw [abs_signed, abs_of_pos (mul_zpow_pos positive e)]
        exact digits.lt_limit_iff.2 near
    · rename_i far
      have reached : limit ≤ m * 2 ^ e := not_lt.1 (digits.lt_limit_iff.not.2 far)
      cases s with
      | negative => exact congrArg some (clamp_eq_bot (neg_le_neg reached)).symm
      | positive => exact congrArg some (clamp_eq_top reached).symm

/-- Bits with a positive sign are not below zero, unless they stand for no number. -/
theorem exists_value_ofComponents {exponent : BitVec 11} (finite : exponent ≠ -1#11)
    (mantissa : BitVec 52) :
    ∃ x, valueOf? (ofComponents .positive exponent mantissa) = some x ∧ 0 ≤ x := by
  have digits (m : ℕ) (e : ℤ) : (0 : Extended) ≤ ((m * 2 ^ e : ℚ) : Extended) :=
    Extended.coe_nonneg.2 (mul_nonneg m.cast_nonneg (two_zpow_pos e).le)
  rw [ofComponents, if_neg finite]
  split
  · split
    · exact ⟨0, rfl, le_rfl⟩
    · exact ⟨_, rfl, digits _ _⟩
  · exact ⟨_, rfl, digits _ _⟩

/-- Positive digits are not packed below zero, wherever their last place is. -/
theorem exists_value_pack {m : ℕ} (positive : 0 < m) (e : ℤ) :
    ∃ x, valueOf? (UnpackedFloat.unpack .binary64
      (UnpackedFloat.pack .binary64 (.finite .positive m e positive))) = some x ∧ 0 ≤ x := by
  rw [pack_finite_eq]
  split
  · exact ⟨⊤, congrArg valueOf? (unpack_packedInfinity .positive), le_top⟩
  · rename_i fits
    split
    · rw [unpack_packComponents]
      refine exists_value_ofComponents (fun all => ?_) _
      have exponent := congrArg BitVec.toNat all
      rw [BitVec.toNat_ofNat] at exponent
      change _ = 2047 at exponent
      omega
    · rw [unpack_packComponents]
      exact exists_value_ofComponents (by decide) _

/-! ## Comparisons -/

/-- Of two numbers with the digits of a double, the one whose last place is further up is
greater. -/
theorem Digits.mul_zpow_lt {m m' : ℕ} {e e' : ℤ} (digits : Digits m e) (digits' : Digits m' e')
    (less : e < e') : (m : ℚ) * 2 ^ e < m' * 2 ^ e' := by
  have least := digits.least
  have short : (m : ℚ) < (2 ^ 53 : ℕ) := by exact_mod_cast digits.short
  have long : ((2 ^ 52 : ℕ) : ℚ) ≤ m' := by
    exact_mod_cast digits'.full.resolve_right (by omega)
  calc (m : ℚ) * 2 ^ e < (2 ^ 53 : ℕ) * 2 ^ e := mul_lt_mul_of_pos_right short (two_zpow_pos e)
    _ = (2 ^ 52 : ℕ) * 2 ^ (e + 1) := by
      rw [zpow_add_one₀ two_ne_zero]
      push_cast
      ring
    _ ≤ m' * 2 ^ e' := mul_le_mul long (zpow_le_zpow_right₀ one_le_two less) (two_zpow_pos _).le
      m'.cast_nonneg

/-- Doubles compare by the place of the last digit first, and then by their digits. -/
theorem Digits.compare_eq {m m' : ℕ} {e e' : ℤ} (digits : Digits m e) (digits' : Digits m' e') :
    (compare e e').then (compare m m') = compare ((m : ℚ) * 2 ^ e) (m' * 2 ^ e') := by
  rcases lt_trichotomy e e' with less | same | more
  · rw [compare_lt_iff_lt.2 less, compare_lt_iff_lt.2 (digits.mul_zpow_lt digits' less)]
    rfl
  · subst same
    rw [compare_eq_iff_eq.2 rfl, Ordering.then]
    have scaled {k l : ℕ} (less : k < l) : (k : ℚ) * 2 ^ e < l * 2 ^ e :=
      mul_lt_mul_of_pos_right (Nat.cast_lt.2 less) (two_zpow_pos e)
    rcases lt_trichotomy m m' with less | same | more
    · rw [compare_lt_iff_lt.2 less, compare_lt_iff_lt.2 (scaled less)]
    · rw [same, compare_eq_iff_eq.2 rfl, compare_eq_iff_eq.2 rfl]
    · rw [compare_gt_iff_gt.2 more, compare_gt_iff_gt.2 (scaled more)]
  · rw [compare_gt_iff_gt.2 more, compare_gt_iff_gt.2 (digits'.mul_zpow_lt digits more)]
    rfl

theorem compare_neg_neg (x y : ℚ) : compare (-x) (-y) = (compare x y).swap := by
  rcases lt_trichotomy x y with less | same | more
  · rw [compare_lt_iff_lt.2 less, compare_gt_iff_gt.2 (neg_lt_neg less)]
    rfl
  · rw [same, compare_eq_iff_eq.2 rfl, compare_eq_iff_eq.2 rfl]
    rfl
  · rw [compare_gt_iff_gt.2 more, compare_lt_iff_lt.2 (neg_lt_neg more)]
    rfl

/-- Doubles that are written with the digits of a double compare as what they write. -/
theorem Writes.compare_eq {u v : UnpackedFloat} {x y : ℚ} (h : Writes u x) (h' : Writes v y) :
    u.compare v = some (compare x y) := by
  cases h with
  | zero s =>
    cases h' with
    | zero s' => exact congrArg some (compare_eq_iff_eq.2 rfl).symm
    | finite s' m' e' positive' digits' =>
      have above := mul_zpow_pos positive' e'
      cases s' with
      | negative => exact congrArg some (compare_gt_iff_gt.2 (neg_neg_of_pos above)).symm
      | positive => exact congrArg some (compare_lt_iff_lt.2 above).symm
  | finite s m e positive digits =>
    have above := mul_zpow_pos positive e
    cases h' with
    | zero s' =>
      cases s with
      | negative => exact congrArg some (compare_lt_iff_lt.2 (neg_neg_of_pos above)).symm
      | positive => exact congrArg some (compare_gt_iff_gt.2 above).symm
    | finite s' m' e' positive' digits' =>
      have above' := mul_zpow_pos positive' e'
      have magnitudes := digits.compare_eq digits'
      cases s <;> cases s'
      · exact congrArg some ((congrArg Ordering.swap magnitudes).trans (compare_neg_neg _ _).symm)
      · exact congrArg some
          (compare_lt_iff_lt.2 ((neg_neg_of_pos above).trans above')).symm
      · exact congrArg some
          (compare_gt_iff_gt.2 ((neg_neg_of_pos above').trans above)).symm
      · exact congrArg some magnitudes

theorem compare_coe (x y : ℚ) : compare (x : Extended) (y : Extended) = compare x y := by
  rcases lt_trichotomy x y with less | same | more
  · rw [compare_lt_iff_lt.2 less, compare_lt_iff_lt]
    exact WithBotTop.coe_lt_coe.2 less
  · rw [same, compare_eq_iff_eq.2 rfl, compare_eq_iff_eq.2 rfl]
  · rw [compare_gt_iff_gt.2 more, compare_gt_iff_gt]
    exact WithBotTop.coe_lt_coe.2 more

/-- Doubles compare as their values. -/
theorem Packed.compare_eq {u v : UnpackedFloat} {x y : Extended} (h : Packed u (some x))
    (h' : Packed v (some y)) : u.compare v = some (compare x y) := by
  cases h with
  | bot =>
    cases h' with
    | bot => exact congrArg some (compare_eq_iff_eq.2 rfl).symm
    | top => exact congrArg some (compare_lt_iff_lt.2 bot_lt_top).symm
    | number writes' within' =>
      rw [compare_lt_iff_lt.2 (Extended.bot_lt_coe _)]
      cases writes' <;> rfl
  | top =>
    cases h' with
    | bot => exact congrArg some (compare_gt_iff_gt.2 bot_lt_top).symm
    | top => exact congrArg some (compare_eq_iff_eq.2 rfl).symm
    | number writes' within' =>
      rw [compare_gt_iff_gt.2 (Extended.coe_lt_top _)]
      cases writes' <;> rfl
  | number writes within =>
    cases h' with
    | bot =>
      rw [compare_gt_iff_gt.2 (Extended.bot_lt_coe _)]
      cases writes <;> rfl
    | top =>
      rw [compare_lt_iff_lt.2 (Extended.coe_lt_top _)]
      cases writes <;> rfl
    | number writes' within' => rw [writes.compare_eq writes', compare_coe]

/-- Doubles are in the order of their values. -/
theorem Packed.le_iff {u v : UnpackedFloat} {x y : Option Extended} (h : Packed u x)
    (h' : Packed v y) : u.le v = true ↔ ∃ a b, x = some a ∧ y = some b ∧ a ≤ b := by
  cases x with
  | none =>
    cases h
    simp [UnpackedFloat.le, UnpackedFloat.compare]
  | some a =>
    cases y with
    | none =>
      cases h'
      cases u <;> simp [UnpackedFloat.le, UnpackedFloat.compare]
    | some b =>
      have order : (compare a b).isLE = true ↔ a ≤ b := by
        rw [← Ordering.ne_gt_iff_isLE]
        exact compare_le_iff_le
      rw [UnpackedFloat.le, h.compare_eq h', Option.any_some, order]
      simp

end Double

end Throttle
