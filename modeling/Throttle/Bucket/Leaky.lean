import Throttle.Parameters
import Throttle.Options
import Throttle.Bucket.Elapsed

/-!
# The leaky bucket

A request pours its units into the bucket, which drains at a constant rate. A request that would
overflow the volume is rejected and leaves the bucket full to the brim.

## Main definitions

* `LeakyBucket α`: the state of a bucket over the arithmetic `α`
* `LeakyBucket.drain b now`: the bucket drained up to `now`
* `LeakyBucket.allow b now n`: the bucket after a request of `n` units, and whether it passed
* `LeakyBucket.setRate`, `LeakyBucket.setVolume`: changes of the parameters

## Main results

* `LeakyBucket.allow_snd`: a request passes unless it overflows the drained bucket
* `LeakyBucket.lastDrain_allow`: every request moves the drain time
-/

namespace Throttle

/-- The state of a leaky bucket. -/
structure LeakyBucket (α : Type) where
  volume : Nat
  /-- The units drained per second. -/
  rate : α
  /-- The units in the bucket at the last drain. -/
  level : α
  /-- The instant of the last drain. -/
  lastDrain : Option Instant
deriving DecidableEq, Repr

namespace LeakyBucket

variable {α : Type} [Arithmetic α]

/-- The parameters of new buckets. -/
structure Config (α : Type) where
  /-- The units drained per second. -/
  rate : α
  volume : Nat
deriving DecidableEq, Repr

/-- The rate must be positive and finite, and the volume positive. -/
def Config.validate (c : Config α) : Except LimiterError Unit := do
  checkRate c.rate
  checkPositive .volume c.volume

/-- The parameters that pass are a rate that passes and a positive volume. -/
theorem Config.validate_eq_ok_iff {c : Config α} {u : Unit} :
    c.validate = .ok u ↔ checkRate c.rate = .ok () ∧ 0 < c.volume := by
  rw [← @checkPositive_eq_ok_iff .volume c.volume u]
  unfold validate
  cases checkRate c.rate <;> simp [bind, Except.bind]

/-- The parameters that a resource names: its limit is the rate, its burst the volume. -/
def Config.ofResource (r : Resource) : Config α := ⟨(r.limit : α), r.burst⟩

/-- A new bucket, which is dry. -/
def dry (c : Config α) : LeakyBucket α := ⟨c.volume, c.rate, ((0 : Nat) : α), none⟩

/-- The bucket drained since the last call, at most down to nothing. Every call moves the time
from which the bucket drains, also back. -/
def drain (b : LeakyBucket α) (now : Instant) : LeakyBucket α :=
  match b.lastDrain with
  | none => { b with lastDrain := some now }
  | some last =>
    { b with
      level := Arithmetic.greater (b.level - elapsed last now * b.rate) ((0 : Nat) : α)
      lastDrain := some now }

/-- The bucket after a request of `n` units, and whether it passed. -/
def allow (b : LeakyBucket α) (now : Instant) (n : Nat) : LeakyBucket α × Bool :=
  let b := b.drain now
  let level := b.level + (n : α)
  if Arithmetic.below (b.volume : α) level then ({ b with level := (b.volume : α) }, false)
  else ({ b with level := level }, true)

/-- The bucket with a new rate, after draining at the old rate. -/
def setRate (b : LeakyBucket α) (now : Instant) (rate : α) : LeakyBucket α :=
  { b.drain now with rate := rate }

/-- The bucket with a new volume, without the units above it. -/
def setVolume (b : LeakyBucket α) (volume : Nat) : LeakyBucket α :=
  { b with volume := volume, level := Arithmetic.lesser b.level (volume : α) }

/-- A request passes unless it overflows the drained bucket. -/
theorem allow_snd (b : LeakyBucket α) (now : Instant) (n : Nat) :
    (b.allow now n).2 =
      !Arithmetic.below ((b.drain now).volume : α) ((b.drain now).level + (n : α)) := by
  unfold allow
  dsimp only
  split <;> simp_all

/-- Every request moves the drain time. -/
theorem lastDrain_allow (b : LeakyBucket α) (now : Instant) (n : Nat) :
    (b.allow now n).1.lastDrain = some now := by
  have h : (b.drain now).lastDrain = some now := by
    unfold drain
    split <;> rfl
  unfold allow
  dsimp only
  split <;> exact h

end LeakyBucket

end Throttle
