import Throttle.Arithmetic
import Throttle.Time.Instant

/-!
# Elapsed time

Buckets gain and lose units by the seconds between two instants.

## Main definitions

* `elapsed earlier later`: the seconds from one instant to another, never negative

## Main results

* `elapsed_of_le`: no time passes towards an earlier instant
-/

namespace Throttle

/-- The seconds from `earlier` to `later`, and none if `later` is not later. They are counted in
nanoseconds as long as 63 bits hold the count, and in whole milliseconds beyond. -/
def elapsed {α : Type} [Arithmetic α] (earlier later : Instant) : α :=
  let nanos := (later.nanos - earlier.nanos).toNat
  if nanos < 2 ^ 63 then (nanos : α) / ((1000000000 : Nat) : α)
  else ((nanos / 1000000 : Nat) : α) / ((1000 : Nat) : α)

/-- No time passes towards an earlier instant. -/
theorem elapsed_of_le {α : Type} [Arithmetic α] {earlier later : Instant} (h : later ≤ earlier) :
    (elapsed earlier later : α) = ((0 : Nat) : α) / ((1000000000 : Nat) : α) := by
  have h0 : (later.nanos - earlier.nanos).toNat = 0 := by
    rw [Instant.le_def] at h
    omega
  simp [elapsed, h0]

end Throttle
