import Throttle.Store.Execution

/-!
# Whole numbers in text

A script's arguments are text. A whole number that is written in decimal digits is read back as
itself, so that scores, limits and units pass through their arguments unchanged.

## Main results

* `Numeral.digitValue_toDigits`: the digits of a number stand for it
* `Numeral.wholeOfText?_toString`: a number that is written is read back
* `Store.integer?_toString`: the same within 64 bits
-/

namespace Throttle

namespace Numeral

/-- The digits of a number stand for it. -/
@[simp] theorem digitValue_toDigits (n : Nat) : digitValue (Nat.toDigits 10 n) = n := by
  induction n using Nat.strongRecOn with
  | ind n ih =>
    have lastDigit (d : Nat) (h : d < 10) : (Nat.digitChar d).toNat - '0'.toNat = d :=
      Nat.toNat_digitChar_sub_48_of_lt_ten h
    rw [Nat.toDigits_eq_if (by decide)]
    split
    · rename_i small
      simpa [digitValue] using lastDigit n small
    · rw [digitValue_append, ih (n / 10) (by omega), lastDigit _ (Nat.mod_lt n (by decide))]
      omega

theorem isDigit_of_mem_toDigits (n : Nat) : ∀ c ∈ Nat.toDigits 10 n, c.isDigit = true :=
  fun _ => Nat.isDigit_of_mem_toDigits (by decide) (by decide)

theorem isEmpty_toDigits (n : Nat) : (Nat.toDigits 10 n).isEmpty = false :=
  List.isEmpty_eq_false_iff.2 Nat.toDigits_ne_nil

/-- A character that is no digit is not among the digits of a number. -/
theorem notMem_toDigits {c : Char} (other : c.isDigit = false) (n : Nat) :
    c ∉ Nat.toDigits 10 n := by
  intro member
  rw [isDigit_of_mem_toDigits n c member] at other
  cases other

/-- An integer is written as the digits of its size, after a dash if it is negative. -/
theorem toList_toString_int (x : Int) :
    (toString x).toList =
      if 0 ≤ x then Nat.toDigits 10 x.natAbs else '-' :: Nat.toDigits 10 x.natAbs := by
  rw [Int.toString_eq_repr, Int.repr_eq_if]
  split
  · have size : x.toNat = x.natAbs := by omega
    rw [size, Nat.toList_repr]
  · have size : (-x).toNat = x.natAbs := by omega
    simp [size]

/-- Digits have no sign. -/
theorem sign_toDigits (n : Nat) :
    sign (Nat.toDigits 10 n) = (false, Nat.toDigits 10 n) := by
  unfold sign
  split
  · rename_i rest digits
    exact absurd (digits ▸ List.mem_cons_self) (notMem_toDigits (c := '-') rfl n)
  · rename_i rest digits
    exact absurd (digits ▸ List.mem_cons_self) (notMem_toDigits (c := '+') rfl n)
  · rfl

/-- Digits after a sign are read as they stand. -/
theorem wholeOfText?_of_sign {s : String} {negative : Bool} {n : Nat}
    (h : sign s.toList = (negative, Nat.toDigits 10 n)) :
    wholeOfText? s = some (if negative then -(n : Int) else n) := by
  have digits : (Nat.toDigits 10 n).all Char.isDigit = true :=
    List.all_eq_true.2 (isDigit_of_mem_toDigits n)
  rw [wholeOfText?, h]
  simp [isEmpty_toDigits, digits]

/-- A whole number that is written is read back. -/
theorem wholeOfText?_toString (x : Int) : wholeOfText? (toString x) = some x := by
  by_cases nonneg : 0 ≤ x
  · have size : (x.natAbs : Int) = x := by omega
    rw [@wholeOfText?_of_sign _ false x.natAbs
      (by rw [toList_toString_int, if_pos nonneg, sign_toDigits]), if_neg Bool.false_ne_true, size]
  · have size : -(x.natAbs : Int) = x := by omega
    rw [@wholeOfText?_of_sign _ true x.natAbs
      (by rw [toList_toString_int, if_neg nonneg, sign]), if_pos rfl, size]

end Numeral

namespace Store

/-- A 64-bit integer that is written is read back. -/
theorem integer?_toString {x : Int} (low : -(2 ^ 63) ≤ x) (high : x < 2 ^ 63) :
    integer? (toString x) = some x := by
  have inside : (decide (-(2 ^ 63) ≤ x) && decide (x < 2 ^ 63)) = true := by
    rw [decide_eq_true low, decide_eq_true high, Bool.and_self]
  rw [integer?, Numeral.wholeOfText?_toString, Option.filter_some, if_pos inside]

/-- A count below `2 ^ 63` that is written is read back. -/
theorem integer?_toString_nat {n : Nat} (high : n < 2 ^ 63) :
    integer? (toString n) = some (n : Int) := by
  have same : toString n = toString (n : Int) := rfl
  rw [same]
  exact integer?_toString (by omega) (by omega)

/-- A count beyond is not read as a 64-bit integer. -/
theorem integer?_toString_nat_eq_none {n : Nat} (high : 2 ^ 63 ≤ n) :
    integer? (toString n) = none := by
  have same : toString n = toString (n : Int) := rfl
  have outside : (decide (-(2 ^ 63) ≤ (n : Int)) && decide ((n : Int) < 2 ^ 63)) = false := by
    rw [Bool.and_eq_false_iff]
    exact .inr (decide_eq_false (by omega))
  rw [integer?, same, Numeral.wholeOfText?_toString, Option.filter_some, outside,
    if_neg Bool.false_ne_true]

end Store

end Throttle
