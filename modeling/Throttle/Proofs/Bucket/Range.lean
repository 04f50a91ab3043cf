import Throttle.Bucket.Leaky
import Throttle.Bucket.Token
import Throttle.Proofs.Arithmetic.Doubles

/-!
# The range of buckets

The tokens of a bucket are a number between nothing and its capacity, and so is the level of a leaky
bucket, whatever is done with them and in whatever order the instants come. This does not need exact
numbers. It is enough that results are rounded without changing their order, as those of doubles
are: what is gained or drained between two instants may overflow to an infinite value, but the
clamps of the buckets bring it back before anything else is computed with it.

## Main definitions

* `Operation`: what is done with a bucket, and `Operation.Valid`: with parameters that were checked
* `TokenBucket.run`, `LeakyBucket.run`: a new bucket after a sequence of operations
* `TokenBucket.InRange`, `LeakyBucket.InRange`: the invariant of each kind

## Main results

* `TokenBucket.InRange.apply`, `LeakyBucket.InRange.apply`: every operation keeps the invariant
* `tokens_and_level_within`: the range of both kinds after any operations
-/

namespace Throttle

open Arithmetic

variable {α : Type} [Arithmetic α]

/-- What is done with a bucket. -/
inductive Operation (α : Type) where
  /-- A request of `n` units. -/
  | allow (now : Instant) (n : ℕ)
  | setRate (now : Instant) (rate : α)
  /-- A new capacity, which a leaky bucket calls its volume. -/
  | setCapacity (capacity : ℕ)

/-- Units and capacities have 64 bits, and parameters were checked. The instants are any. -/
def Operation.Valid : Operation α → Prop
  | allow _ n => n < 2 ^ 64
  | setRate _ rate => checkRate rate = .ok ()
  | setCapacity capacity => 0 < capacity ∧ capacity < 2 ^ 64

instance : DecidablePred (Operation.Valid (α := α))
  | .allow _ n => inferInstanceAs (Decidable (n < 2 ^ 64))
  | .setRate _ rate => inferInstanceAs (Decidable (checkRate rate = .ok ()))
  | .setCapacity capacity => inferInstanceAs (Decidable (0 < capacity ∧ capacity < 2 ^ 64))

/-! ## Token buckets -/

namespace TokenBucket

/-- The bucket after an operation. -/
def apply (b : TokenBucket α) : Operation α → TokenBucket α
  | .allow now n => (b.allow now n).1
  | .setRate now rate => b.setRate now rate
  | .setCapacity capacity => b.setCapacity capacity

/-- A new bucket after a sequence of operations. -/
def run (c : Config α) (operations : List (Operation α)) : TokenBucket α :=
  operations.foldl apply (full c)

/-- The parameters are valid, and the tokens are a number between nothing and the capacity. -/
structure InRange (b : TokenBucket α) : Prop where
  rate : checkRate b.rate = .ok ()
  positive : 0 < b.capacity
  small : b.capacity < 2 ^ 64
  tokens : Within b.tokens b.capacity

namespace InRange

variable [Rounded α] {b : TokenBucket α}

theorem full {c : Config α} (valid : c.validate = .ok ()) (small : c.burst < 2 ^ 64) :
    InRange (full c) :=
  have passes := Config.validate_eq_ok_iff.1 valid
  ⟨passes.1, passes.2, small, .bound_self c.burst⟩

theorem refill (h : InRange b) (now : Instant) : InRange (b.refill now) := by
  unfold TokenBucket.refill
  split
  · exact ⟨h.rate, h.positive, h.small, h.tokens⟩
  · rename_i last _
    split
    · exact h
    · obtain ⟨gain, value, nonneg⟩ := exists_gain last now h.rate
      exact ⟨h.rate, h.positive, h.small, h.tokens.fill h.small value nonneg⟩

/-- Every operation keeps the invariant. -/
theorem apply (h : InRange b) {o : Operation α} (valid : o.Valid) : InRange (b.apply o) := by
  cases o with
  | allow now n =>
    have refilled := h.refill now
    rw [TokenBucket.apply, TokenBucket.allow]
    split
    · rename_i enough
      exact ⟨refilled.rate, refilled.positive, refilled.small,
        refilled.tokens.take refilled.small valid enough⟩
    · exact refilled
  | setRate now rate =>
    have refilled := h.refill now
    exact ⟨valid, refilled.positive, refilled.small, refilled.tokens⟩
  | setCapacity capacity => exact ⟨h.rate, valid.1, valid.2, h.tokens.cut capacity⟩

theorem run {c : Config α} (valid : c.validate = .ok ()) (small : c.burst < 2 ^ 64)
    {operations : List (Operation α)} (all : ∀ o ∈ operations, o.Valid) :
    InRange (run c operations) := by
  induction operations using List.reverseRecOn with
  | nil => exact full valid small
  | append_singleton before o ih =>
    rw [TokenBucket.run, List.foldl_concat]
    exact (ih fun o member => all o (by simp [member])).apply (all o (by simp))

end InRange

end TokenBucket

/-! ## Leaky buckets -/

namespace LeakyBucket

/-- The bucket after an operation. -/
def apply (b : LeakyBucket α) : Operation α → LeakyBucket α
  | .allow now n => (b.allow now n).1
  | .setRate now rate => b.setRate now rate
  | .setCapacity volume => b.setVolume volume

/-- A new bucket after a sequence of operations. -/
def run (c : Config α) (operations : List (Operation α)) : LeakyBucket α :=
  operations.foldl apply (dry c)

/-- The parameters are valid, and the level is a number between nothing and the volume. -/
structure InRange (b : LeakyBucket α) : Prop where
  rate : checkRate b.rate = .ok ()
  positive : 0 < b.volume
  small : b.volume < 2 ^ 64
  level : Within b.level b.volume

namespace InRange

variable [Rounded α] {b : LeakyBucket α}

theorem dry {c : Config α} (valid : c.validate = .ok ()) (small : c.volume < 2 ^ 64) :
    InRange (dry c) :=
  have passes := Config.validate_eq_ok_iff.1 valid
  ⟨passes.1, passes.2, small, .zero c.volume⟩

theorem drain (h : InRange b) (now : Instant) : InRange (b.drain now) := by
  unfold LeakyBucket.drain
  split
  · exact ⟨h.rate, h.positive, h.small, h.level⟩
  · rename_i last _
    obtain ⟨loss, value, nonneg⟩ := exists_gain last now h.rate
    exact ⟨h.rate, h.positive, h.small, h.level.drain h.small value nonneg⟩

/-- Every operation keeps the invariant. -/
theorem apply (h : InRange b) {o : Operation α} (valid : o.Valid) : InRange (b.apply o) := by
  cases o with
  | allow now n =>
    have drained := h.drain now
    rw [LeakyBucket.apply, LeakyBucket.allow]
    split
    · -- A request that overflows leaves the bucket full to the brim.
      exact ⟨drained.rate, drained.positive, drained.small, .bound_self _⟩
    · rename_i fits
      exact ⟨drained.rate, drained.positive, drained.small,
        drained.level.pour drained.small valid (Bool.eq_false_iff.2 fits)⟩
  | setRate now rate =>
    have drained := h.drain now
    exact ⟨valid, drained.positive, drained.small, drained.level⟩
  | setCapacity volume => exact ⟨h.rate, valid.1, valid.2, h.level.cut volume⟩

theorem run {c : Config α} (valid : c.validate = .ok ()) (small : c.volume < 2 ^ 64)
    {operations : List (Operation α)} (all : ∀ o ∈ operations, o.Valid) :
    InRange (run c operations) := by
  induction operations using List.reverseRecOn with
  | nil => exact dry valid small
  | append_singleton before o ih =>
    rw [LeakyBucket.run, List.foldl_concat]
    exact (ih fun o member => all o (by simp [member])).apply (all o (by simp))

end InRange

end LeakyBucket

/-! ## The range after any operations -/

/-- **The range of buckets.** In every arithmetic whose results are the exact ones, rounded, new
buckets with valid parameters have tokens and levels that are numbers, not negative and not above
the capacity or the volume, after any valid operations at any instants. -/
theorem tokens_and_level_within [Rounded α] {t : TokenBucket.Config α} {l : LeakyBucket.Config α}
    (tokenValid : t.validate = .ok ()) (tokenSmall : t.burst < 2 ^ 64)
    (leakyValid : l.validate = .ok ()) (leakySmall : l.volume < 2 ^ 64)
    {operations : List (Operation α)} (valid : ∀ o ∈ operations, o.Valid) :
    Within (TokenBucket.run t operations).tokens (TokenBucket.run t operations).capacity ∧
      Within (LeakyBucket.run l operations).level (LeakyBucket.run l operations).volume :=
  ⟨(TokenBucket.InRange.run tokenValid tokenSmall valid).tokens,
    (LeakyBucket.InRange.run leakyValid leakySmall valid).level⟩

/-- Half of the least power of two that no double reaches. -/
def steepRate : Float := Float.ofBits 0x7FE0000000000000

/-- Requests some seconds apart and back in time, and capacities that no double equals. -/
def flood : List (Operation Float) :=
  [.allow ⟨0⟩ 7, .allow ⟨4000000000⟩ 3, .setCapacity (2 ^ 53 + 1), .allow ⟨8000000000⟩ (2 ^ 64 - 1),
    .setRate ⟨1⟩ steepRate, .setCapacity 5, .allow ⟨2⟩ 1]

/-- The buckets of doubles stay in their range when what they gain in four seconds overflows. -/
theorem tokens_and_level_within_flood :
    (elapsed ⟨0⟩ ⟨4000000000⟩ * steepRate : Float).isFinite = false ∧
      Within (TokenBucket.run ⟨steepRate, 10⟩ flood).tokens
        (TokenBucket.run ⟨steepRate, 10⟩ flood).capacity ∧
      Within (LeakyBucket.run ⟨steepRate, 10⟩ flood).level
        (LeakyBucket.run ⟨steepRate, 10⟩ flood).volume :=
  ⟨by decide +kernel,
    tokens_and_level_within (by decide +kernel) (by decide) (by decide +kernel) (by decide)
      (by decide +kernel)⟩

end Throttle
