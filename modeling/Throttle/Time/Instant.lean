import Throttle.Time.Span

/-!
# Instants

An instant is a point of time, counted in nanoseconds from the start of 1970. A clock reads
instants of the years -262143 to 262142; an instant beyond them cannot be represented, and a
computation that needs one has no result.

## Main definitions

* `Instant`: a point of time
* `Instant.Representable`: the instants that a clock can read
* `Instant.shift?`: an instant moved by a signed number of nanoseconds, if representable
* `Instant.after?`: an instant moved forward by a span, if representable
* `Instant.seconds`, `Instant.micros`: an instant as a unix time, rounded down

## Main results

* `Instant.shift?_eq_some_iff`: a shift succeeds exactly when its result is representable
* `Instant.micros_le_micros`: rounding down keeps the order of instants
-/

namespace Throttle

/-- A point of time, in nanoseconds from the start of 1970. -/
structure Instant where
  /-- Nanoseconds from the start of 1970, negative before it. -/
  nanos : Int
deriving DecidableEq, Repr, Inhabited

namespace Instant

instance : LE Instant := ⟨fun a b => a.nanos ≤ b.nanos⟩

instance : LT Instant := ⟨fun a b => a.nanos < b.nanos⟩

instance (a b : Instant) : Decidable (a ≤ b) := inferInstanceAs (Decidable (a.nanos ≤ b.nanos))

instance (a b : Instant) : Decidable (a < b) := inferInstanceAs (Decidable (a.nanos < b.nanos))

theorem le_def {a b : Instant} : a ≤ b ↔ a.nanos ≤ b.nanos := Iff.rfl

theorem lt_def {a b : Instant} : a < b ↔ a.nanos < b.nanos := Iff.rfl

/-- The instant of a unix time in seconds and the nanoseconds after it. -/
def ofParts (seconds : Int) (nanos : Nat) : Instant := ⟨seconds * 1000000000 + nanos⟩

/-- The first instant of the year -262143. -/
def earliest : Instant := ofParts (-8334601228800) 0

/-- The last instant of the year 262142. -/
def latest : Instant := ofParts 8210266876799 999999999

/-- The instants that a clock can read. -/
def Representable (t : Instant) : Prop := earliest ≤ t ∧ t ≤ latest

instance (t : Instant) : Decidable t.Representable :=
  inferInstanceAs (Decidable (earliest ≤ t ∧ t ≤ latest))

/-- The instant moved by `delta` nanoseconds, if it is representable. -/
def shift? (t : Instant) (delta : Int) : Option Instant :=
  let moved : Instant := ⟨t.nanos + delta⟩
  if moved.Representable then some moved else none

/-- A shift succeeds exactly when its result is representable. -/
theorem shift?_eq_some_iff {t u : Instant} {delta : Int} :
    t.shift? delta = some u ↔ u.nanos = t.nanos + delta ∧ u.Representable := by
  cases u
  simp only [shift?]
  split
  · simp only [Option.some.injEq, mk.injEq]
    constructor
    · rintro rfl; exact ⟨rfl, by assumption⟩
    · exact fun h => h.1.symm
  · simp only [reduceCtorEq, false_iff]
    rintro ⟨rfl, h⟩
    contradiction

/-- A shift that succeeds moves the instant by what it says. -/
theorem eq_of_shift? {t u : Instant} {delta : Int} (h : t.shift? delta = some u) :
    u = ⟨t.nanos + delta⟩ := by
  rw [← (shift?_eq_some_iff.1 h).1]

/-- The instant a span later, if it is representable. -/
def after? (t : Instant) (span : Span) : Option Instant := t.shift? span.nanos

/-- The unix time in seconds, rounded down. -/
def seconds (t : Instant) : Int := t.nanos / 1000000000

/-- The nanoseconds after the unix second. -/
def subsecond (t : Instant) : Nat := (t.nanos % 1000000000).toNat

/-- The unix time in microseconds, rounded down. -/
def micros (t : Instant) : Int := t.nanos / 1000

/-- Rounding down keeps the order of instants. -/
theorem micros_le_micros {a b : Instant} (h : a ≤ b) : a.micros ≤ b.micros := by
  rw [le_def] at h
  simp only [micros]
  omega

end Instant

end Throttle
