import Throttle.Parameters
import Throttle.Options
import Throttle.Bucket.Elapsed

/-!
# The token bucket

A token bucket gains tokens at a constant rate up to its capacity, and a request takes as many
tokens as it has units. A new bucket is full.

## Main definitions

* `TokenBucket α`: the state of a bucket over the arithmetic `α`
* `TokenBucket.refill b now`: the bucket with the tokens gained up to `now`
* `TokenBucket.allow b now n`: the bucket after a request of `n` units, and whether it passed
* `TokenBucket.setRate`, `TokenBucket.setCapacity`: changes of the parameters

## Main results

* `TokenBucket.refill_of_le`: an instant that is not new gains nothing
* `TokenBucket.allow_snd`: a request passes when the refilled bucket holds its units
* `TokenBucket.allow_fst`: it then takes them, and otherwise nothing
-/

namespace Throttle

/-- The state of a token bucket. -/
structure TokenBucket (α : Type) where
  capacity : Nat
  /-- The tokens gained per second. -/
  rate : α
  /-- The tokens at the last refill. -/
  tokens : α
  /-- The instant of the last refill. -/
  lastRefill : Option Instant
deriving DecidableEq, Repr

namespace TokenBucket

variable {α : Type} [Arithmetic α]

/-- The parameters of new buckets. -/
structure Config (α : Type) where
  /-- The tokens gained per second. -/
  rate : α
  burst : Nat
deriving DecidableEq, Repr

/-- The rate must be positive and finite, and the capacity positive. -/
def Config.validate (c : Config α) : Except LimiterError Unit := do
  checkRate c.rate
  checkPositive .burst c.burst

/-- The parameters that pass are a rate that passes and a positive capacity. -/
theorem Config.validate_eq_ok_iff {c : Config α} {u : Unit} :
    c.validate = .ok u ↔ checkRate c.rate = .ok () ∧ 0 < c.burst := by
  rw [← @checkPositive_eq_ok_iff .burst c.burst u]
  unfold validate
  cases checkRate c.rate <;> simp [bind, Except.bind]

/-- The parameters that a resource names: its limit is the rate. -/
def Config.ofResource (r : Resource) : Config α := ⟨(r.limit : α), r.burst⟩

/-- A new bucket, which is full. -/
def full (c : Config α) : TokenBucket α := ⟨c.burst, c.rate, (c.burst : α), none⟩

/-- The bucket with the tokens gained since the last refill, at most its capacity. The first call
sets the time from which tokens are gained; an instant that is not later than the last refill
gains nothing. -/
def refill (b : TokenBucket α) (now : Instant) : TokenBucket α :=
  match b.lastRefill with
  | none => { b with lastRefill := some now }
  | some last =>
    if now ≤ last then b
    else
      { b with
        tokens := Arithmetic.lesser (b.tokens + elapsed last now * b.rate) (b.capacity : α)
        lastRefill := some now }

/-- The bucket after a request of `n` units, and whether it passed. -/
def allow (b : TokenBucket α) (now : Instant) (n : Nat) : TokenBucket α × Bool :=
  let b := b.refill now
  if (n : α) ≤ b.tokens then ({ b with tokens := b.tokens - (n : α) }, true) else (b, false)

/-- The bucket with a new rate, after the tokens gained at the old rate. -/
def setRate (b : TokenBucket α) (now : Instant) (rate : α) : TokenBucket α :=
  { b.refill now with rate := rate }

/-- The bucket with a new capacity, without the tokens above it. -/
def setCapacity (b : TokenBucket α) (capacity : Nat) : TokenBucket α :=
  { b with capacity := capacity, tokens := Arithmetic.lesser b.tokens (capacity : α) }

/-- An instant that is not new gains nothing. -/
theorem refill_of_le {b : TokenBucket α} {now last : Instant} (h : b.lastRefill = some last)
    (hle : now ≤ last) : b.refill now = b := by
  simp [refill, h, hle]

/-- A request passes when the refilled bucket holds its units. -/
theorem allow_snd (b : TokenBucket α) (now : Instant) (n : Nat) :
    (b.allow now n).2 = decide ((n : α) ≤ (b.refill now).tokens) := by
  unfold allow
  dsimp only
  split <;> simp_all

/-- A request refills the bucket, and takes its units if it passes. -/
theorem allow_fst (b : TokenBucket α) (now : Instant) (n : Nat) :
    (b.allow now n).1 =
      { b.refill now with
        tokens :=
          if (b.allow now n).2 then (b.refill now).tokens - (n : α)
          else (b.refill now).tokens } := by
  rw [allow_snd]
  unfold allow
  dsimp only
  split <;> simp_all

end TokenBucket

end Throttle
