import Throttle.Arithmetic
import Throttle.Error

/-!
# Parameters

Limiters refuse parameters with which their rules make no sense: rates that are not positive and
finite, counts of zero, and windows that are empty or too long.

## Main definitions

* `checkRate`, `checkPositive`: the tests of a rate and of a count
* `Span.window?`: the length of a window in nanoseconds

## Main results

* `checkPositive_eq_ok_iff`: the counts that pass are the positive ones
* `Span.window?_eq_ok_iff`: the spans that are windows are the positive ones up to
  `Span.longestWindow`
-/

namespace Throttle

/-- A rate must be positive and finite. -/
def checkRate {α : Type} [Arithmetic α] (rate : α) : Except LimiterError Unit :=
  if Arithmetic.isFinite rate && Arithmetic.below ((0 : Nat) : α) rate then .ok ()
  else .error (.config (.badRate (Arithmetic.text rate)))

/-- A count must be positive. -/
def checkPositive (what : Quantity) (value : Nat) : Except LimiterError Unit :=
  if value = 0 then .error (.config (.notPositive what)) else .ok ()

/-- The counts that pass are the positive ones. -/
@[simp] theorem checkPositive_eq_ok_iff {what : Quantity} {value : Nat} {u : Unit} :
    checkPositive what value = .ok u ↔ 0 < value := by
  unfold checkPositive
  split <;> simp <;> omega

namespace Span

/-- The longest window: the milliseconds that 63 bits can count. -/
def longestWindow : Span := ofMillis (2 ^ 63 - 1)

/-- The length of a window in nanoseconds. A window is not empty and not longer than the
longest. -/
def window? (window : Span) : Except LimiterError Int :=
  if window.nanos = 0 then .error (.config .emptyWindow)
  else if window.nanos ≤ longestWindow.nanos then .ok window.nanos
  else .error (.config (.longWindow window))

/-- The spans that are windows are the positive ones up to the longest window. -/
theorem window?_eq_ok_iff {window : Span} {length : Int} :
    window.window? = .ok length ↔
      length = window.nanos ∧ 0 < window.nanos ∧ window.nanos ≤ longestWindow.nanos := by
  unfold window?
  split
  · simp; omega
  · split
    · simp; omega
    · simp; omega

/-- A window must be a span that is a window. -/
def checkWindow (window : Span) : Except LimiterError Unit := window.window?.map fun _ => ()

/-- A window passes if it is a span that is a window. -/
@[simp] theorem checkWindow_eq_ok_iff {window : Span} {u : Unit} :
    window.checkWindow = .ok u ↔ 0 < window.nanos ∧ window.nanos ≤ longestWindow.nanos := by
  unfold checkWindow
  cases h : window.window? with
  | ok length => simp [Except.map, (window?_eq_ok_iff.1 h).2]
  | error e =>
    simp only [Except.map, reduceCtorEq, false_iff]
    intro inRange
    rw [window?_eq_ok_iff.2 ⟨rfl, inRange⟩] at h
    cases h

end Span

end Throttle
