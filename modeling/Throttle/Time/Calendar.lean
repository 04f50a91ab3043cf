import Throttle.Time.Instant

/-!
# The calendar

Instants are written as a date of the proleptic Gregorian calendar and a time of day in UTC.

## Main definitions

* `Date`: a day of the calendar
* `Date.ofDay n`: the `n`-th day after 1 January 1970
* `Instant.text`: an instant with its date, time of day and fraction of a second

The calendar repeats every 400 years, which are 146097 days. Within such an era the years are
counted from 1 March, so that a leap day is the last of its year.
-/

namespace Throttle

/-- A day of the proleptic Gregorian calendar; year 0 is the year before year 1. -/
structure Date where
  /-- The year, negative before year 0. -/
  year : Int
  /-- The month, 1 to 12. -/
  month : Nat
  /-- The day of the month, 1 to 31. -/
  day : Nat
deriving DecidableEq, Repr

namespace Date

/-- The `n`-th day after 1 January 1970. -/
def ofDay (n : Int) : Date :=
  let fromMarch := n + 719468
  let era := fromMarch / 146097
  let dayOfEra := (fromMarch % 146097).toNat
  let yearOfEra := (dayOfEra - dayOfEra / 1460 + dayOfEra / 36524 - dayOfEra / 146096) / 365
  let dayOfYear := dayOfEra - (365 * yearOfEra + yearOfEra / 4 - yearOfEra / 100)
  let monthFromMarch := (5 * dayOfYear + 2) / 153
  let day := dayOfYear - (153 * monthFromMarch + 2) / 5 + 1
  let month := if monthFromMarch < 10 then monthFromMarch + 3 else monthFromMarch - 9
  let year := era * 400 + yearOfEra + (if month ≤ 2 then 1 else 0)
  ⟨year, month, day⟩

/-- A year: four digits from 0 to 9999, otherwise a sign and at least four digits. -/
def yearText (year : Int) : String :=
  let digits := String.ofList (Decimal.padded 4 year.natAbs)
  if year < 0 then "-" ++ digits
  else if year > 9999 then "+" ++ digits
  else digits

/-- A date as year, month and day, joined by dashes. -/
def text (d : Date) : String :=
  yearText d.year ++ "-" ++ String.ofList (Decimal.padded 2 d.month) ++ "-"
    ++ String.ofList (Decimal.padded 2 d.day)

end Date

namespace Instant

/-- A fraction of a second in 3, 6 or 9 digits, the fewest that are exact; nothing for zero. -/
def fractionText (nanos : Nat) : String :=
  if nanos = 0 then ""
  else if nanos % 1000000 = 0 then "." ++ String.ofList (Decimal.padded 3 (nanos / 1000000))
  else if nanos % 1000 = 0 then "." ++ String.ofList (Decimal.padded 6 (nanos / 1000))
  else "." ++ String.ofList (Decimal.padded 9 nanos)

/-- The date, the time of day and the fraction of a second, in UTC. -/
def text (t : Instant) : String :=
  let date := Date.ofDay (t.seconds / 86400)
  let secondOfDay := (t.seconds % 86400).toNat
  let field (n : Nat) : String := String.ofList (Decimal.padded 2 n)
  date.text ++ " " ++ field (secondOfDay / 3600) ++ ":" ++ field (secondOfDay / 60 % 60) ++ ":"
    ++ field (secondOfDay % 60) ++ fractionText t.subsecond ++ " UTC"

end Instant

end Throttle
