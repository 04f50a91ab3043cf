import Throttle.Decimal.Fixed

/-!
# Member names

The requests of the shared windows and logs are members of sorted sets. A member's name holds the
time in microseconds, the origin of its limiter and the number of the request among those of the
limiter, so that requests of one microsecond have different names, also if they come from different
limiters.

## Main definitions

* `MemberNames`: the origin of a limiter and the number of its next request
* `MemberNames.next`: the name of the next request

## Main results

* `MemberNames.origin_next`, `MemberNames.next_ofNat`: the origin stays, and the number counts
-/

namespace Throttle

/-- The origin of a limiter and the number of its next request. -/
structure MemberNames where
  /-- The origin, drawn at random. -/
  origin : UInt64
  sequence : UInt64
deriving DecidableEq, Repr

namespace MemberNames

/-- The names of a new limiter. -/
def ofOrigin (origin : UInt64) : MemberNames := ⟨origin, 0⟩

/-- The name of a request: microseconds, origin and number, joined by dashes. -/
def name (micros : Int) (origin sequence : UInt64) : String :=
  toString micros ++ "-" ++ Decimal.hex16 origin ++ "-" ++ toString sequence.toNat

/-- The name of the next request at the given time in microseconds. -/
def next (m : MemberNames) (micros : Int) : MemberNames × String :=
  ({ m with sequence := m.sequence + 1 }, name micros m.origin m.sequence)

/-- The origin stays. -/
@[simp] theorem origin_next (m : MemberNames) (micros : Int) :
    (m.next micros).1.origin = m.origin := rfl

/-- The number counts the requests, and comes round after `2 ^ 64` of them. -/
theorem next_ofNat (origin : UInt64) (n : Nat) (micros : Int) :
    (next ⟨origin, UInt64.ofNat n⟩ micros).1 = ⟨origin, UInt64.ofNat (n + 1)⟩ := by
  rw [UInt64.ofNat_add]
  rfl

end MemberNames

end Throttle
