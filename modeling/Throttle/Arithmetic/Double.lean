import Throttle.Arithmetic
import Throttle.Decimal.Numeral
import Throttle.Decimal.Shortest

/-!
# Double precision

Doubles are the arithmetic with which the limiters run. A double is written as the shortest
decimal that reads back to it, positionally and without a point if it is whole.

## Main definitions

* `Double.Form`: a double taken apart
* `Double.text`: the text of a double
* `Double.ofNumeral`: the double nearest to a numeral
* the instance `Arithmetic Float`
-/

namespace Throttle

namespace Double

/-- A double taken apart. -/
inductive Form where
  | nan
  | infinite (negative : Bool)
  /-- The number `m * 2 ^ q`, negated if `negative`. Below it the doubles are twice as dense if
  `denseBelow`. -/
  | finite (negative : Bool) (m : Nat) (q : Int) (denseBelow : Bool)
deriving DecidableEq, Repr

/-- The form of the double with the given 64 bits: a sign, eleven bits of exponent and 52 of
fraction. -/
def Form.ofBits (bits : Nat) : Form :=
  let negative := bits / 2 ^ 63 == 1
  let exponent : Nat := bits / 2 ^ 52 % 2 ^ 11
  let fraction : Nat := bits % 2 ^ 52
  if exponent = 2047 then
    if fraction = 0 then .infinite negative else .nan
  else if exponent = 0 then .finite negative fraction (-1074) false
  else
    .finite negative (2 ^ 52 + fraction) ((exponent : Int) - 1075)
      (fraction == 0 && exponent != 1)

/-- The text of a form. -/
def Form.text : Form → String
  | .nan => "NaN"
  | .infinite negative => if negative then "-inf" else "inf"
  | .finite negative m q denseBelow =>
    let magnitude := if m = 0 then "0" else (Decimal.shortest m q denseBelow).text
    if negative then "-" ++ magnitude else magnitude

/-- The text of a double: the shortest decimal that reads back. -/
def text (x : Float) : String := (Form.ofBits x.toBits.toNat).text

/-- The double nearest to a numeral. -/
def ofNumeral : Numeral → Float
  | .finite negative coefficient exponent =>
    let magnitude := Float.ofScientific coefficient (exponent < 0) exponent.natAbs
    if negative then -magnitude else magnitude
  | .infinite negative => if negative then -1 / 0 else 1 / 0
  | .nan => 0 / 0

/-- The double nearest to the numeral of a text. -/
def ofText? (s : String) : Option Float := (Numeral.ofText? s).map ofNumeral

end Double

/-- Double precision. Whole parts stop at the greatest number of 64 bits. -/
instance : Arithmetic Float where
  natCast n := Float.ofNat n
  decLe := fun a b => Float.decLe a b
  isFinite := Float.isFinite
  whole x := x.toUInt64.toNat
  text := Double.text
  ofText? := Double.ofText?

end Throttle
