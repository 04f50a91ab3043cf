import Mathlib.Data.List.TakeWhile
import Throttle.Proofs.Arithmetic.Exact
import Throttle.Proofs.Decimal.Whole

/-!
# Rational numbers in text

The leaky bucket script takes its numbers as text and stores the level of the bucket as text.
Rational numbers that are written are read back as themselves, so that a bucket with exact numbers
loses nothing in its store.

## Main results

* `Numeral.ofText?_toString`: a whole number is read as a numeral without point or exponent
* `Exact.ofText?_toString`, `Exact.ofText?_text`: a number that is written is read back
-/

namespace Throttle

namespace Numeral

/-- A digit has no case. -/
theorem toLower_of_isDigit {c : Char} (digit : c.isDigit = true) : c.toLower = c := by
  simp only [Char.isDigit, Bool.and_eq_true, decide_eq_true_eq] at digit
  refine dif_neg fun upper => ?_
  exact absurd (UInt32.le_trans upper.1 digit.2) (by decide)

/-- Digits are no word: each of the words has an `n`. -/
theorem word?_toDigits (negative : Bool) (n : Nat) :
    word? negative (Nat.toDigits 10 n) = none := by
  have other {word : String} (letter : 'n' ∈ word.toList) :
      String.ofList ((Nat.toDigits 10 n).map Char.toLower) ≠ word := by
    rintro rfl
    rw [String.toList_ofList] at letter
    obtain ⟨c, member, lower⟩ := List.mem_map.1 letter
    have digit := isDigit_of_mem_toDigits n c member
    rw [toLower_of_isDigit digit] at lower
    rw [lower] at digit
    cases digit
  rw [word?, if_neg, if_neg (other (by decide))]
  rintro (same | same)
  · exact other (by decide) same
  · exact other (by decide) same

/-- Digits alone are a numeral without point or exponent. -/
theorem unsigned?_toDigits (negative : Bool) (n : Nat) :
    unsigned? negative (Nat.toDigits 10 n) = some (.finite negative n 0) := by
  have digits : Numeral.digits (Nat.toDigits 10 n) = (Nat.toDigits 10 n, []) := by
    have all := isDigit_of_mem_toDigits n
    rw [Numeral.digits, List.span_eq_takeWhile_dropWhile, List.takeWhile_eq_self_iff.2 all,
      List.dropWhile_eq_nil_iff.2 all]
  simp [unsigned?, digits, isEmpty_toDigits, exponent?]

/-- A whole number is read as a numeral without point or exponent. -/
theorem ofText?_toString (x : Int) :
    ofText? (toString x) = some (.finite (decide (x < 0)) x.natAbs 0) := by
  by_cases nonneg : 0 ≤ x
  · rw [ofText?, toList_toString_int, if_pos nonneg, sign_toDigits]
    dsimp only
    rw [word?_toDigits, unsigned?_toDigits, decide_eq_false (by omega), Option.none_or]
  · rw [ofText?, toList_toString_int, if_neg nonneg, sign]
    dsimp only
    rw [word?_toDigits, unsigned?_toDigits, decide_eq_true (by omega), Option.none_or]

/-- A number without sign that is written is read back. -/
theorem natOfText?_toString (n : Nat) : natOfText? (toString n) = some n := by
  have digits : (Nat.toDigits 10 n).all Char.isDigit = true :=
    List.all_eq_true.2 (isDigit_of_mem_toDigits n)
  have unsigned : (toString n).toList = Nat.toDigits 10 n := Nat.toList_repr
  rw [natOfText?, unsigned]
  split
  · rename_i rest plus
    exact absurd (plus ▸ List.mem_cons_self) (notMem_toDigits (c := '+') rfl n)
  · simp [isEmpty_toDigits, digits]

end Numeral

namespace Exact

theorem notMem_slash (x : Int) : '/' ∉ (toString x).toList := by
  rw [Numeral.toList_toString_int]
  split
  · exact Numeral.notMem_toDigits rfl _
  · exact fun member => (List.mem_cons.1 member).elim (by decide) (Numeral.notMem_toDigits rfl _)

/-- A whole number that is written is read back. -/
theorem ofText?_toString (x : Int) : ofText? (toString x) = some (x : ℚ) := by
  have all : ∀ c ∈ (toString x).toList, (c != '/') = true := fun c member =>
    bne_iff_ne.2 fun same => notMem_slash x (same ▸ member)
  rw [ofText?, List.span_eq_takeWhile_dropWhile, List.takeWhile_eq_self_iff.2 all,
    List.dropWhile_eq_nil_iff.2 all]
  dsimp only
  rw [Numeral.ofText?_toString, Option.bind_some, ofNumeral?]
  simp only [zpow_zero, mul_one, decide_eq_true_eq]
  split
  · have size : x = -(x.natAbs : ℤ) := by omega
    conv_rhs => rw [size]
    rw [Int.cast_neg, Int.cast_natCast]
  · have size : x = (x.natAbs : ℤ) := by omega
    conv_rhs => rw [size]
    rw [Int.cast_natCast]

theorem ofText?_toString_nat (n : Nat) : ofText? (toString n) = some (n : ℚ) := by
  have same : toString n = toString (n : Int) := rfl
  rw [same, ofText?_toString, Int.cast_natCast]

/-- A rational number that is written is read back. -/
theorem ofText?_text (q : ℚ) : ofText? (text q) = some q := by
  rw [text]
  split
  · rename_i whole
    rw [ofText?_toString, (Rat.den_eq_one_iff q).1 whole]
  · -- The numerator has no slash, so that the text is split at the one that follows.
    have before : ∀ c ∈ (toString q.num).toList, (c != '/') = true := fun c member =>
      bne_iff_ne.2 fun same => notMem_slash q.num (same ▸ member)
    have parts : (toString q.num ++ "/" ++ toString q.den).toList =
        (toString q.num).toList ++ '/' :: (toString q.den).toList := by
      simp
    rw [ofText?, parts, List.span_eq_takeWhile_dropWhile, List.takeWhile_append_of_pos before,
      List.dropWhile_append_of_pos before]
    simp only [List.takeWhile_cons, bne_self_eq_false, Bool.false_eq_true, if_false,
      List.append_nil, List.dropWhile_cons, String.ofList_toList, Numeral.wholeOfText?_toString,
      Numeral.natOfText?_toString]
    exact congrArg some (Rat.mkRat_self q)

end Exact

end Throttle
