import Throttle.Decimal.Fixed

/-!
# Spans of time

A span is a length of time in whole nanoseconds. Windows, timeouts, lifetimes and clock steps are
spans.

## Main definitions

* `Span`: a length of time
* `Span.max`: the longest span, a 64-bit count of seconds and a last nanosecond
* `Span.plus?`: the sum of two spans, if it is a span
* `Span.text`: a span in its largest unit, exact

## Main results

* `Span.plus?_eq_some_iff`: two spans add up unless their sum exceeds the longest span
-/

namespace Throttle

/-- A length of time in nanoseconds. -/
structure Span where
  /-- The length in nanoseconds. -/
  nanos : Nat
deriving DecidableEq, Repr, Inhabited

namespace Span

/-- The span of whole seconds and nanoseconds. -/
def ofParts (seconds nanos : Nat) : Span := ⟨seconds * 1000000000 + nanos⟩

/-- The span of whole seconds. -/
def ofSeconds (n : Nat) : Span := ⟨n * 1000000000⟩

/-- The span of whole milliseconds. -/
def ofMillis (n : Nat) : Span := ⟨n * 1000000⟩

/-- The whole seconds of a span. -/
def seconds (s : Span) : Nat := s.nanos / 1000000000

/-- The nanoseconds of a span beyond its whole seconds. -/
def subsecond (s : Span) : Nat := s.nanos % 1000000000

/-- The longest span: `2 ^ 64` seconds less a nanosecond. -/
def max : Span := ⟨2 ^ 64 * 1000000000 - 1⟩

/-- The sum of two spans, if it is not longer than the longest span. -/
def plus? (s t : Span) : Option Span :=
  if s.nanos + t.nanos ≤ max.nanos then some ⟨s.nanos + t.nanos⟩ else none

/-- Two spans add up unless their sum exceeds the longest span. -/
theorem plus?_eq_some_iff {s t u : Span} :
    s.plus? t = some u ↔ u.nanos = s.nanos + t.nanos ∧ u.nanos ≤ max.nanos := by
  cases u
  simp only [plus?]
  split <;> simp <;> omega

/-- A span in its largest unit of s, ms, µs and ns, as an exact decimal without zeros at the
end. -/
def text (s : Span) : String :=
  if s.nanos ≥ 1000000000 then
    Decimal.pointed (s.nanos / 1000000000) (Decimal.fraction 9 (s.nanos % 1000000000)) ++ "s"
  else if s.nanos ≥ 1000000 then
    Decimal.pointed (s.nanos / 1000000) (Decimal.fraction 6 (s.nanos % 1000000)) ++ "ms"
  else if s.nanos ≥ 1000 then
    Decimal.pointed (s.nanos / 1000) (Decimal.fraction 3 (s.nanos % 1000)) ++ "µs"
  else
    toString s.nanos ++ "ns"

end Span

end Throttle
