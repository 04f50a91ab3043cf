/-!
# Numerals of a fixed width

Counts are written in decimal digits, and fields of a date or a fraction to a fixed width with
leading zeros.

## Main definitions

* `Decimal.padded width n`: the digits of `n`, at least `width` of them
* `Decimal.fraction width n`: the digits after a point that stand for `n` units of the `width`-th
  place, without the zeros at the end
* `Decimal.hex16 n`: the sixteen hexadecimal digits of a word

## Main results

* `Decimal.length_padded`: a numeral is never shorter than its width
-/

namespace Throttle.Decimal

/-- The digits of `n` with leading zeros up to `width`. -/
def padded (width n : Nat) : List Char :=
  let digits := Nat.toDigits 10 n
  List.replicate (width - digits.length) '0' ++ digits

/-- A numeral is never shorter than its width. -/
theorem length_padded (width n : Nat) : width ≤ (padded width n).length := by
  simp only [padded, List.length_append, List.length_replicate]
  omega

/-- The digits without the zeros at the end. -/
def trimZeros (digits : List Char) : List Char :=
  (digits.reverse.dropWhile (· = '0')).reverse

/-- The digits after a point that stand for `n` units of the `width`-th place. -/
def fraction (width n : Nat) : List Char := trimZeros (padded width n)

/-- A whole part and a fraction, joined by a point if there is a fraction. -/
def pointed (whole : Nat) (fraction : List Char) : String :=
  if fraction.isEmpty then toString whole
  else toString whole ++ "." ++ String.ofList fraction

/-- The sixteen lower-case hexadecimal digits of a word. -/
def hex16 (n : UInt64) : String :=
  let digits := Nat.toDigits 16 n.toNat
  String.ofList (List.replicate (16 - digits.length) '0' ++ digits)

end Throttle.Decimal
