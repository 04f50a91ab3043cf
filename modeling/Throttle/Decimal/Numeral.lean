/-!
# Numerals

Numbers in text arguments are numerals. A whole numeral is an optional sign and digits. A general
numeral also has a point and an exponent, or is one of the words for infinity and for a value that
is not a number. Blanks, separators and other bases are not part of a numeral.

## Main definitions

* `Numeral`: a general numeral, before any rounding
* `Numeral.ofText?`: the general numeral of a text
* `Numeral.wholeOfText?`: the signed whole number of a text
* `Numeral.natOfText?`: the unsigned whole number of a text

## Main results

* `Numeral.digitValue_append`: digits read from the left
-/

namespace Throttle

/-- A general numeral. -/
inductive Numeral where
  /-- `coefficient * 10 ^ exponent`, negated if `negative`. -/
  | finite (negative : Bool) (coefficient : Nat) (exponent : Int)
  | infinite (negative : Bool)
  | nan
deriving DecidableEq, Repr

namespace Numeral

/-- The number that decimal digits stand for. -/
def digitValue (digits : List Char) : Nat :=
  digits.foldl (fun n c => n * 10 + (c.toNat - '0'.toNat)) 0

/-- Digits read from the left. -/
theorem digitValue_append (digits : List Char) (c : Char) :
    digitValue (digits ++ [c]) = digitValue digits * 10 + (c.toNat - '0'.toNat) := by
  simp [digitValue]

/-- The sign of a text, and the text after it. -/
def sign : List Char → Bool × List Char
  | '-' :: rest => (true, rest)
  | '+' :: rest => (false, rest)
  | rest => (false, rest)

/-- The digits at the start of a text, and the rest. -/
def digits (cs : List Char) : List Char × List Char := cs.span Char.isDigit

/-- The exponent of a numeral: nothing, or an `e`, an optional sign and at least one digit. -/
def exponent? : List Char → Option Int
  | [] => some 0
  | c :: rest =>
    if c = 'e' ∨ c = 'E' then
      let (negative, rest) := sign rest
      let (ds, after) := digits rest
      if ds.isEmpty ∨ !after.isEmpty then none
      else some (if negative then -(digitValue ds : Int) else digitValue ds)
    else none

/-- The numeral of a text without sign: digits with an optional point, at least one of them, and
an exponent. -/
def unsigned? (negative : Bool) (cs : List Char) : Option Numeral :=
  let (whole, rest) := digits cs
  let (part, rest) := match rest with
    | '.' :: after => digits after
    | _ => ([], rest)
  if whole.isEmpty ∧ part.isEmpty then none
  else (exponent? rest).map fun e => .finite negative (digitValue (whole ++ part)) (e - part.length)

/-- The numeral that a word in any case stands for. -/
def word? (negative : Bool) (cs : List Char) : Option Numeral :=
  let word := String.ofList (cs.map Char.toLower)
  if word = "inf" ∨ word = "infinity" then some (.infinite negative)
  else if word = "nan" then some .nan
  else none

/-- The general numeral of a text. -/
def ofText? (s : String) : Option Numeral :=
  let (negative, rest) := sign s.toList
  (word? negative rest).or (unsigned? negative rest)

/-- The signed whole number of a text: an optional sign and at least one digit. -/
def wholeOfText? (s : String) : Option Int :=
  let (negative, ds) := sign s.toList
  if ds.isEmpty ∨ !ds.all Char.isDigit then none
  else some (if negative then -(digitValue ds : Int) else digitValue ds)

/-- The unsigned whole number of a text: an optional plus sign and at least one digit. -/
def natOfText? (s : String) : Option Nat :=
  let ds := match s.toList with
    | '+' :: rest => rest
    | rest => rest
  if ds.isEmpty ∨ !ds.all Char.isDigit then none
  else some (digitValue ds)

end Numeral

end Throttle
