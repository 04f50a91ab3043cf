/-!
# Shortest decimals

A binary number `m * 2 ^ q` stands for every real that rounds to it. Among the decimals in that
interval, the shortest is a point of the coarsest grid of powers of ten that has a point there,
and of two such points the one nearer to `m * 2 ^ q`.

## Main definitions

* `Decimal`: a coefficient and a power of ten
* `Decimal.Rounding`: the reals that round to a binary number, over a common denominator
* `Decimal.Rounding.hit?`: the point of a grid in the interval that is nearest to the number
* `Decimal.shortest`: the shortest decimal
* `Decimal.text`: a decimal written positionally

## Main results

* `Decimal.Rounding.contains_of_hit?`: a hit lies in the interval
-/

namespace Throttle

/-- The number `coefficient * 10 ^ exponent`. -/
structure Decimal where
  /-- The digits, as a whole number. -/
  coefficient : Nat
  /-- The power of ten of the last digit. -/
  exponent : Int
deriving DecidableEq, Repr

namespace Decimal

/-- The reals from `low / denominator` to `high / denominator`, which round to
`value / denominator`; the ends are among them if `closed`. -/
structure Rounding where
  /-- Numerator of the lower end. -/
  low : Nat
  value : Nat
  /-- Numerator of the upper end. -/
  high : Nat
  denominator : Nat
  closed : Bool
deriving Repr

namespace Rounding

/-- The interval of `m * 2 ^ q`, which reaches half a unit of `q` up, and half a unit down or a
quarter if the numbers below are twice as dense. Ends belong to it if `m` is even. -/
def ofBinary (m : Nat) (q : Int) (denseBelow : Bool) : Rounding :=
  let unit := Nat.pow 2 (q - 2).toNat
  { low := 4 * m * unit - (if denseBelow then unit else 2 * unit)
    value := 4 * m * unit
    high := 4 * m * unit + 2 * unit
    denominator := Nat.pow 2 (2 - q).toNat
    closed := m % 2 == 0 }

/-- The interval in units of `10 ^ k`. -/
def rescale (r : Rounding) (k : Int) : Rounding :=
  let up := Nat.pow 10 (-k).toNat
  { r with
    low := r.low * up
    value := r.value * up
    high := r.high * up
    denominator := r.denominator * Nat.pow 10 k.toNat }

/-- Whether the whole number `d` lies in the interval. -/
def contains (r : Rounding) (d : Nat) : Bool :=
  let point := d * r.denominator
  if r.closed then decide (r.low ≤ point) && decide (point ≤ r.high)
  else decide (r.low < point) && decide (point < r.high)

/-- The whole number in the interval that is nearest to the number, if there is one. A tie goes
up. -/
def nearest? (r : Rounding) : Option Nat :=
  let below := r.value / r.denominator
  let above := below + 1
  let upFirst := decide (above * r.denominator - r.value ≤ r.value - below * r.denominator)
  match r.contains below, r.contains above with
  | true, true => some (if upFirst then above else below)
  | true, false => some below
  | false, true => some above
  | false, false => none

/-- The point of the grid of `10 ^ k` in the interval that is nearest to the number. -/
def hit? (r : Rounding) (k : Int) : Option Decimal :=
  ((r.rescale k).nearest?).map fun d => ⟨d, k⟩

theorem contains_of_nearest? {r : Rounding} {d : Nat} (h : r.nearest? = some d) :
    r.contains d = true := by
  simp only [nearest?] at h
  split at h
  · split at h <;> simp_all
  all_goals simp_all

/-- A hit lies in the interval. -/
theorem contains_of_hit? {r : Rounding} {k : Int} {d : Decimal} (h : r.hit? k = some d) :
    (r.rescale k).contains d.coefficient = true ∧ d.exponent = k := by
  simp only [hit?, Option.map_eq_some_iff] at h
  obtain ⟨n, hn, rfl⟩ := h
  exact ⟨contains_of_nearest? hn, rfl⟩

/-- The first hit on the grids of `10 ^ k`, `10 ^ (k - 1)` and so on, at most `grids` of them. -/
def firstHit? (r : Rounding) : (grids : Nat) → (k : Int) → Option Decimal
  | 0, _ => none
  | grids + 1, k => match r.hit? k with
    | some d => some d
    | none => firstHit? r grids (k - 1)

end Rounding

/-- A power of ten above `m * 2 ^ q`: the number has `m.log2 + q + 1` binary digits before its
point, and a binary digit is worth less than 0.30103 decimal ones. -/
def topExponent (m : Nat) (q : Int) : Int := (m.log2 + q + 1) * 30103 / 100000 + 1

/-- The shortest decimal that rounds to `m * 2 ^ q`, for `0 < m < 2 ^ 53`. The search starts above
the number, and seventeen digits always suffice, so twenty grids hold a hit. -/
def shortest (m : Nat) (q : Int) (denseBelow : Bool) : Decimal :=
  ((Rounding.ofBinary m q denseBelow).firstHit? 20 (topExponent m q)).getD ⟨0, 0⟩

/-- The decimal with all its digits: zeros fill the places up to the point. -/
def text (d : Decimal) : String :=
  let digits := Nat.toDigits 10 d.coefficient
  if 0 ≤ d.exponent then
    String.ofList (digits ++ List.replicate d.exponent.toNat '0')
  else
    let places := (-d.exponent).toNat
    let all := List.replicate (places + 1 - digits.length) '0' ++ digits
    String.ofList (all.take (all.length - places) ++ '.' :: all.drop (all.length - places))

end Decimal

end Throttle
