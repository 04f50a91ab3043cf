import Mathlib.Algebra.Order.Group.MinMax
import Throttle.Proofs.Bucket.Conformance
import Throttle.Proofs.Bucket.Resizing

/-!
# Token buckets and leaky buckets side by side

The room that is left in a leaky bucket grows while it drains as the tokens of a token bucket grow
while it is refilled: by the same gain, up to the same bound. A request that passes takes its units
from either. The two differ only in what a rejected request does: it leaves the tokens where they
are, and no room at all. So with the same parameters and the same steps in the order of time, the
token bucket always holds at least the room of the leaky bucket, and until the first rejection just
as much.

## Main definitions

* `LeakyBucket.room`: the units that still fit into a leaky bucket
* `LeakyBucket.driven`, `LeakyBucket.passesAt`: a leaky bucket under the steps of a token bucket,
  and its decision on one of them
* `Abreast`: what holds of the two buckets after the same steps

## Main results

* `LeakyBucket.room_drain`, `LeakyBucket.room_allow`: the room as a number of tokens
* `Abreast.next`: a step keeps the two buckets abreast
* `TokenBucket.dominates`: the token bucket lets through whatever the leaky bucket does
-/

namespace Throttle

namespace LeakyBucket

variable {l : LeakyBucket ℚ} {now : Instant}

/-- The units that still fit into the bucket. -/
def room (l : LeakyBucket ℚ) : ℚ := l.volume - l.level

/-- **The room of a drained bucket** is that of a refilled token bucket. -/
theorem room_drain {last : Instant} (known : l.lastDrain = some last) :
    (l.drain now).room = min (l.room + elapsed last now * l.rate) l.volume := by
  rw [drain_eq known]
  simp only [room]
  rw [← min_sub_sub_left, sub_zero, sub_add]

theorem room_drain_of_none (fresh : l.lastDrain = none) : (l.drain now).room = l.room := by
  simp only [drain, fresh, room]

/-- A request passes if its units fit into the room. -/
theorem allow_snd_eq_decide (l : LeakyBucket ℚ) (now : Instant) (n : ℕ) :
    (l.allow now n).2 = decide ((n : ℚ) ≤ (l.drain now).room) := by
  rw [allow_snd, Bool.eq_iff_iff, Bool.not_eq_true', ← Bool.not_eq_true, Exact.below_iff, not_lt,
    decide_eq_true_iff, room, le_sub_iff_add_le']

/-- **The room after a request** is less by its units, or there is none. -/
theorem room_allow (l : LeakyBucket ℚ) (now : Instant) (n : ℕ) :
    (l.allow now n).1.room = if (l.allow now n).2 then (l.drain now).room - n else 0 := by
  unfold LeakyBucket.allow
  dsimp only
  split
  · simp [room]
  · simp [room, sub_sub]

theorem volume_allow (l : LeakyBucket ℚ) (now : Instant) (n : ℕ) :
    (l.allow now n).1.volume = l.volume := by
  rw [← volume_drain l now]
  unfold LeakyBucket.allow
  dsimp only
  split <;> rfl

theorem rate_allow (l : LeakyBucket ℚ) (now : Instant) (n : ℕ) :
    (l.allow now n).1.rate = l.rate := by
  rw [← rate_drain l now]
  unfold LeakyBucket.allow
  dsimp only
  split <;> rfl

/-- The bucket after a step. -/
def next (l : LeakyBucket ℚ) : TokenBucket.Step → LeakyBucket ℚ
  | .allow now n => (l.allow now n).1
  | .setRate now rate _ => l.setRate now rate

/-- A new bucket after the steps of a token bucket. -/
def driven (c : Config ℚ) (steps : List TokenBucket.Step) : LeakyBucket ℚ :=
  steps.foldl next (dry c)

/-- Whether the step numbered `k` is a request that passes. -/
def passesAt (c : Config ℚ) (steps : List TokenBucket.Step) (k : ℕ) : Bool :=
  match steps[k]? with
  | some (.allow now n) => ((driven c (steps.take k)).allow now n).2
  | _ => false

theorem driven_concat (c : Config ℚ) (steps : List TokenBucket.Step) (s : TokenBucket.Step) :
    driven c (steps ++ [s]) = (driven c steps).next s := by
  simp [driven]

end LeakyBucket

/-- A request that passes takes its units from what has been gained. -/
theorem TokenBucket.tokens_allow (b : TokenBucket ℚ) (now : Instant) (n : ℕ) :
    (b.allow now n).1.tokens =
      if (b.allow now n).2 then (b.refill now).tokens - n else (b.refill now).tokens := by
  rw [allow_fst]

/-! ## One step -/

/-- What holds of a token bucket and a leaky bucket with the same parameters after the same steps:
they have the same time and the same rate, and there are tokens for all of the room. -/
structure Abreast (past : Set Instant) (b : TokenBucket ℚ) (l : LeakyBucket ℚ) : Prop where
  token : b.Sane past
  leaky : l.Sane past
  volume : l.volume = b.capacity
  rate : l.rate = b.rate
  mark : l.lastDrain = b.lastRefill
  covers : l.room ≤ b.tokens

namespace Abreast

variable {past : Set Instant} {b : TokenBucket ℚ} {l : LeakyBucket ℚ} {now : Instant}

theorem mono {past' : Set Instant} (h : Abreast past b l) (sub : past ⊆ past') :
    Abreast past' b l :=
  { h with token := h.token.mono sub, leaky := h.leaky.mono sub }

/-- New buckets: one is full, and the other has all its room. -/
theorem start {c : TokenBucket.Config ℚ} (positive : 0 < c.rate) (past : Set Instant) :
    Abreast past (.full c) (.dry ⟨c.rate, c.burst⟩) where
  token := ⟨positive, Nat.cast_nonneg _, le_refl _, fun _ known => (nomatch known)⟩
  leaky := ⟨positive, Nat.cast_nonneg _, Nat.cast_le.2 (Nat.zero_le _),
    fun _ known => (nomatch known), fun _ => Nat.cast_zero⟩
  volume := rfl
  rate := rfl
  mark := rfl
  covers := by simp [LeakyBucket.room, LeakyBucket.dry, TokenBucket.full]

/-- Tokens and room grow by the same gain up to the same bound. -/
theorem tokens_and_room (h : Abreast past b l) (order : ∀ e ∈ past, e ≤ now) :
    ∃ gain : ℚ, (b.refill now).tokens = min (b.tokens + gain) b.capacity ∧
      (l.drain now).room = min (l.room + gain) b.capacity := by
  cases known : b.lastRefill with
  | none =>
    -- The first instant starts the time of both.
    have fresh : l.lastDrain = none := h.mark.trans known
    have within : l.room ≤ b.capacity := h.covers.trans h.token.atMost
    refine ⟨0, ?_, ?_⟩
    · rw [add_zero, min_eq_left h.token.atMost, TokenBucket.refill, known]
    · rw [add_zero, min_eq_left within, LeakyBucket.room_drain_of_none fresh]
  | some last =>
    refine ⟨elapsed last now * b.rate, ?_, ?_⟩
    · rw [TokenBucket.refill_eq known (order last (h.token.seen last known)) h.token.atMost]
    · rw [LeakyBucket.room_drain (h.mark.trans known), h.rate, h.volume]

/-- Between steps, the token bucket stays ahead. -/
theorem settle (h : Abreast past b l) (order : ∀ e ∈ past, e ≤ now) (member : now ∈ past) :
    Abreast past (b.refill now) (l.drain now) where
  token := h.token.refill member
  leaky := h.leaky.drain member
  volume := by rw [LeakyBucket.volume_drain, TokenBucket.capacity_refill, h.volume]
  rate := by rw [LeakyBucket.rate_drain, TokenBucket.rate_refill, h.rate]
  mark := by
    rw [LeakyBucket.lastDrain_drain,
      TokenBucket.lastRefill_refill fun last known => order last (h.token.seen last known)]
  covers := by
    obtain ⟨gain, tokens, room⟩ := h.tokens_and_room order
    rw [tokens, room]
    exact min_le_min_right _ (add_le_add_left h.covers gain)

/-- **A request that passes the leaky bucket** passes the token bucket. -/
theorem passes (h : Abreast past b l) (order : ∀ e ∈ past, e ≤ now) (member : now ∈ past) {n : ℕ}
    (fits : (l.allow now n).2 = true) : (b.allow now n).2 = true := by
  rw [LeakyBucket.allow_snd_eq_decide, decide_eq_true_iff] at fits
  rw [TokenBucket.allow_snd, decide_eq_true_iff]
  exact fits.trans (h.settle order member).covers

/-- A request keeps the two abreast. Of the four combinations of decisions, one cannot be; in the
other three the room goes down with the tokens, or there is none. -/
theorem allow (h : Abreast past b l) (order : ∀ e ∈ past, e ≤ now) (member : now ∈ past) (n : ℕ) :
    Abreast past (b.allow now n).1 (l.allow now n).1 := by
  have settled := h.settle order member
  refine {
    token := h.token.allow member n
    leaky := h.leaky.allow member n
    volume := ?_
    rate := ?_
    mark := ?_
    covers := ?_ }
  · rw [LeakyBucket.volume_allow, TokenBucket.allow_fst, TokenBucket.capacity_refill, h.volume]
  · rw [LeakyBucket.rate_allow, TokenBucket.allow_fst, TokenBucket.rate_refill, h.rate]
  · rw [LeakyBucket.lastDrain_allow, TokenBucket.allow_fst]
    exact (TokenBucket.lastRefill_refill
      fun last known => order last (h.token.seen last known)).symm
  · rw [LeakyBucket.room_allow]
    split
    · rename_i fits
      rw [TokenBucket.tokens_allow, if_pos (h.passes order member fits)]
      exact sub_le_sub_right settled.covers _
    · exact (h.token.allow member n).nonneg

/-- **A step keeps the two abreast.** -/
theorem next (h : Abreast past b l) {s : TokenBucket.Step} (order : ∀ e ∈ past, e ≤ s.time)
    (member : s.time ∈ past) : Abreast past (b.next s) (l.next s) := by
  cases s with
  | allow now n => exact h.allow order member n
  | setRate now rate positive =>
    exact { h.settle order member with
      token := h.token.setRate member positive
      leaky := h.leaky.setRate member positive
      rate := rfl }

/-- **As long as the tokens are just the room,** both decide alike. -/
theorem passes_eq (h : Abreast past b l) (order : ∀ e ∈ past, e ≤ now)
    (level : b.tokens = l.room) (n : ℕ) : (b.allow now n).2 = (l.allow now n).2 := by
  obtain ⟨gain, tokens, room⟩ := h.tokens_and_room order
  rw [TokenBucket.allow_snd, LeakyBucket.allow_snd_eq_decide, tokens, room, level]

/-- They stay so unless a request is rejected. -/
theorem tokens_next (h : Abreast past b l) {s : TokenBucket.Step}
    (order : ∀ e ∈ past, e ≤ s.time) (level : b.tokens = l.room)
    (pass : ∀ now n, s = .allow now n → (b.allow now n).2 = true) :
    (b.next s).tokens = (l.next s).room := by
  have same : (b.refill s.time).tokens = (l.drain s.time).room := by
    obtain ⟨gain, tokens, room⟩ := h.tokens_and_room order
    rw [tokens, room, level]
  cases s with
  | allow now n =>
    have passed := pass now n rfl
    have passed' : (l.allow now n).2 = true := (h.passes_eq order level n).symm.trans passed
    rw [TokenBucket.next, LeakyBucket.next, TokenBucket.tokens_allow, LeakyBucket.room_allow,
      if_pos passed, if_pos passed']
    exact congrArg (· - (n : ℚ)) same
  | setRate now rate positive => exact same

end Abreast

/-! ## Runs -/

namespace TokenBucket

variable {c : Config ℚ} {steps : List Step}

/-- The times of steps. -/
def times (steps : List Step) : Set Instant := {e | ∃ s ∈ steps, s.time = e}

theorem times_subset {more : List Step} (sub : steps ⊆ more) : times steps ⊆ times more := by
  rintro e ⟨s, member, rfl⟩
  exact ⟨s, sub member, rfl⟩

/-- The two buckets stay abreast in every run. -/
theorem abreast_after (positive : 0 < c.rate)
    (ordered : steps.Pairwise fun a b => a.time ≤ b.time) :
    Abreast (times steps) (after c steps) (.driven ⟨c.rate, c.burst⟩ steps) := by
  induction steps using List.reverseRecOn with
  | nil => exact .start positive _
  | append_singleton steps s ih =>
    obtain ⟨before, -, last⟩ := List.pairwise_append.1 ordered
    rw [after_concat, LeakyBucket.driven_concat]
    refine ((ih before).mono (times_subset (List.subset_append_left _ _))).next ?_ ⟨s, by simp, rfl⟩
    rintro _ ⟨t, member, rfl⟩
    rcases List.mem_append.1 member with earlier | here
    · exact last t earlier s (by simp)
    · rw [List.mem_singleton.1 here]
      exact Int.le_refl _

variable {k : ℕ} {s : Step}

theorem take_pairwise (ordered : steps.Pairwise fun a b => a.time ≤ b.time) (k : ℕ) :
    (steps.take k).Pairwise fun a b => a.time ≤ b.time :=
  ordered.sublist (List.take_sublist k steps)

/-- A step comes after the steps before it. -/
theorem times_take_le (ordered : steps.Pairwise fun a b => a.time ≤ b.time)
    (here : steps[k]? = some s) : ∀ e ∈ times (steps.take k), e ≤ s.time := by
  rintro _ ⟨t, member, rfl⟩
  have split := take_pairwise ordered (k + 1)
  rw [take_succ_eq here] at split
  exact (List.pairwise_append.1 split).2.2 t member s (by simp)

/-- Until a request is rejected, the tokens are the room. -/
theorem tokens_eq_room (positive : 0 < c.rate)
    (ordered : steps.Pairwise fun a b => a.time ≤ b.time)
    (pass : ∀ i < k, IsRequestAt steps i → passes c steps i = true) :
    (after c (steps.take k)).tokens =
      (LeakyBucket.driven ⟨c.rate, c.burst⟩ (steps.take k)).room := by
  induction k with
  | zero => simp [after, full, LeakyBucket.driven, LeakyBucket.room, LeakyBucket.dry]
  | succ k ih =>
    have level := ih fun i hi => pass i (hi.trans (Nat.lt_succ_self k))
    cases here : steps[k]? with
    | none =>
      -- The run is over.
      have ended := List.getElem?_eq_none_iff.1 here
      rw [List.take_of_length_le (by omega)] at level ⊢
      exact level
    | some s =>
      have abreast := abreast_after positive (take_pairwise ordered k)
      rw [take_succ_eq here, after_concat, LeakyBucket.driven_concat]
      refine abreast.tokens_next (times_take_le ordered here) level fun now n request => ?_
      have passed := pass k (Nat.lt_succ_self k) ⟨s, by simp [here], request ▸ trivial⟩
      rwa [passes, here, request] at passed

/-- **The token bucket dominates the leaky bucket.** Made with the same rate and the same capacity,
and driven by the same steps in the order of time, the token bucket lets every request through that
the leaky bucket does, and always holds at least the room of the leaky bucket. Up to the first
rejection and with it they decide alike, and until then tokens and level add up to the volume. -/
theorem dominates (c : Config ℚ) (positive : 0 < c.rate) (steps : List Step)
    (ordered : steps.Pairwise fun a b => a.time ≤ b.time) :
    (∀ k, LeakyBucket.passesAt ⟨c.rate, c.burst⟩ steps k = true → passes c steps k = true) ∧
    (∀ k, let leaky := LeakyBucket.driven ⟨c.rate, c.burst⟩ (steps.take k)
      (leaky.volume : ℚ) - leaky.level ≤ (after c (steps.take k)).tokens) ∧
    ∀ k, (∀ i < k, IsRequestAt steps i → passes c steps i = true) →
      let leaky := LeakyBucket.driven ⟨c.rate, c.burst⟩ (steps.take k)
      passes c steps k = LeakyBucket.passesAt ⟨c.rate, c.burst⟩ steps k ∧
        (after c (steps.take k)).tokens + leaky.level = leaky.volume := by
  have abreast := fun k => abreast_after positive (take_pairwise ordered k)
  refine ⟨fun k fits => ?_, fun k => (abreast k).covers, fun k pass => ⟨?_, ?_⟩⟩
  · unfold LeakyBucket.passesAt at fits
    split at fits
    · rename_i now n here
      have before := times_take_le ordered here
      have ahead := ((abreast k).mono (Set.subset_insert now _)).passes
        (Set.forall_mem_insert.2 ⟨Int.le_refl _, before⟩) (Set.mem_insert now _) fits
      rw [passes, here]
      exact ahead
    · cases fits
  · have level := tokens_eq_room positive ordered pass
    rw [passes, LeakyBucket.passesAt]
    cases here : steps[k]? with
    | none => rfl
    | some s =>
      cases s with
      | allow now n => exact (abreast k).passes_eq (times_take_le ordered here) level n
      | setRate now rate positive => rfl
  · rw [tokens_eq_room positive ordered pass, LeakyBucket.room, sub_add_cancel]

/-- A burst, a request that is rejected, and one that fits into what has been gained since. -/
def burstThenOne : List Step := [.allow ⟨0⟩ 2, .allow ⟨1000000000⟩ 2, .allow ⟨1000000000⟩ 1]

/-- Both buckets reject the second request. The third passes the token bucket only: the rejected one
has left the leaky bucket without room. -/
theorem dominates_burstThenOne :
    (0 : ℚ) < 1 ∧ (burstThenOne.Pairwise fun a b => a.time ≤ b.time) ∧
      passes ⟨1, 2⟩ burstThenOne 1 = LeakyBucket.passesAt ⟨1, 2⟩ burstThenOne 1 ∧
      ((LeakyBucket.driven ⟨1, 2⟩ (burstThenOne.take 2)).volume : ℚ) -
          (LeakyBucket.driven ⟨1, 2⟩ (burstThenOne.take 2)).level ≤
        (after ⟨1, 2⟩ (burstThenOne.take 2)).tokens ∧
      passes ⟨1, 2⟩ burstThenOne 2 = true ∧
      LeakyBucket.passesAt ⟨1, 2⟩ burstThenOne 2 = false := by
  have ordered : burstThenOne.Pairwise fun a b => a.time ≤ b.time := by decide
  obtain ⟨-, covers, alike⟩ := dominates ⟨1, 2⟩ one_pos burstThenOne ordered
  have first : ∀ i < 1, IsRequestAt burstThenOne i → passes ⟨1, 2⟩ burstThenOne i = true := by
    intro i hi _
    obtain rfl : i = 0 := by omega
    decide +kernel
  exact ⟨one_pos, ordered, (alike 1 first).1, covers 2, by decide +kernel, by decide +kernel⟩

end TokenBucket

end Throttle
