/-!
# Arithmetics

Buckets compute with fractional units. Their rules are stated over an arithmetic, so that they
can be run with rounded numbers and reasoned about with exact ones.

## Main definitions

* `Arithmetic α`: the operations that a bucket needs
* `Arithmetic.below a b`: `a` is strictly less than `b`
* `Arithmetic.lesser`, `Arithmetic.greater`: of two numbers, the lesser and the greater one

An arithmetic may have values that are not numbers. Such a value compares with nothing, not even
with itself; `lesser` and `greater` pass it over.
-/

-- A power of a whole number is that of the core library, also in a module that imports algebra.
attribute [default_instance 20000] instPowNat

namespace Throttle

/-- The operations on the numbers `α` that a bucket needs. -/
class Arithmetic (α : Type) extends Add α, Sub α, Mul α, Div α, NatCast α, LE α where
  /-- Comparisons are decided. -/
  decLe : DecidableLE α
  /-- Whether a value is a number and not infinite. -/
  isFinite : α → Bool
  /-- The whole part of a number, at least zero; zero for a value that is not a number. -/
  whole : α → Nat
  /-- The text of a value. -/
  text : α → String
  /-- The value of a text. -/
  ofText? : String → Option α

namespace Arithmetic

variable {α : Type} [Arithmetic α]

instance (a b : α) : Decidable (a ≤ b) := Arithmetic.decLe a b

/-- `a` is strictly less than `b`. -/
def below (a b : α) : Bool := decide (a ≤ b) && !decide (b ≤ a)

/-- Whether a value is a number. -/
def isNumber (a : α) : Bool := decide (a ≤ a)

/-- The lesser of two numbers, the second of equal ones; a value that is not a number gives way. -/
def lesser (a b : α) : α :=
  if below a b then a else if isNumber b then b else a

/-- The greater of two numbers, the second of equal ones; a value that is not a number gives way. -/
def greater (a b : α) : α :=
  if below b a then a else if isNumber b then b else a

end Arithmetic

end Throttle
