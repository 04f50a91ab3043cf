import Mathlib.Data.List.Induction
import Mathlib.Data.Nat.Cast.Order.Field
import Mathlib.Data.Nat.Cast.Order.Ring
import Mathlib.Data.Rat.Floor
import Mathlib.Algebra.Order.Floor.Semiring
import Mathlib.Algebra.Order.Group.MinMax
import Mathlib.Tactic.Linarith
import Throttle.Bucket.Leaky
import Throttle.Bucket.Token
import Throttle.Proofs.Arithmetic.Exact

/-!
# Changes of a bucket's capacity

A bucket is brought up to date when it is asked or gets another rate, and not when it gets another
capacity. What has been gained or drained since the last update is then cut at the new capacity and
not at the old one. It may make no difference: a token bucket that has filled up under none of its
capacities, and a leaky bucket whose level fits into all of its volumes or that has run dry, are
later what they would be if they had been brought up to date before the changes. Where it makes a
difference, a change of the rate and a request within two nanoseconds can tell.

## Main definitions

* `TokenBucket.resize`, `LeakyBucket.resize`: a bucket after changes of its capacity
* `TokenBucket.Sane`, `LeakyBucket.Sane`: what holds of a bucket after any calls
* `TokenBucket.ForwardOnly`, `LeakyBucket.ForwardOnly`: changes of the capacity make no difference
  to what has been gained or drained before them

## Main results

* `TokenBucket.refill_resize`, `LeakyBucket.drain_resize`: the bucket is later as if it had been
  brought up to date before the changes
* `TokenBucket.exists_told_apart`, `LeakyBucket.exists_told_apart`: otherwise a request can tell
-/

namespace Throttle

namespace Exact

/-- Seconds add up. -/
theorem elapsed_add_elapsed {a b c : Instant} (first : a ≤ b) (second : b ≤ c)
    (close : c.nanos - a.nanos < 2 ^ 63) :
    (elapsed a b : ℚ) + elapsed b c = elapsed a c := by
  rw [Instant.le_def] at first second
  rw [elapsed_eq (Instant.le_def.2 first) (by omega), elapsed_eq (Instant.le_def.2 second)
    (by omega), elapsed_eq (Instant.le_def.2 (first.trans second)) close]
  push_cast
  ring

theorem elapsed_self (a : Instant) : (elapsed a a : ℚ) = 0 := by
  rw [elapsed_eq (Int.le_refl _) (by omega), sub_self, Int.cast_zero, zero_div]

/-- At a positive rate, something is gained or drained in any time. -/
theorem elapsed_mul_eq_zero_iff {earlier later : Instant} (order : earlier ≤ later)
    (close : later.nanos - earlier.nanos < 2 ^ 63) {rate : ℚ} (positive : 0 < rate) :
    elapsed earlier later * rate = 0 ↔ earlier = later := by
  rw [mul_eq_zero, or_iff_left positive.ne', elapsed_eq order close, div_eq_zero_iff,
    or_iff_left (by norm_num), Int.cast_eq_zero, sub_eq_zero]
  exact ⟨fun same => congrArg Instant.mk same.symm, fun same => same ▸ rfl⟩

/-- **A rate that tells two numbers apart.** Of two different numbers of units, the greater one of
which is within the capacity, there is a whole number of units that after a nanosecond at some rate
fits into the greater one only. -/
theorem exists_rate_between {low high : ℚ} {capacity : ℕ} (nonneg : 0 ≤ low) (less : low < high)
    (within : high ≤ capacity) :
    ∃ rate : ℚ, 0 < rate ∧ ∃ n : ℕ, n ≤ capacity ∧ low + rate / 1000000000 < n ∧
      (n : ℚ) ≤ high + rate / 1000000000 := by
  set n := ⌊low⌋₊ + 1
  have above : low < n := by exact_mod_cast Nat.lt_floor_add_one low
  have size : n ≤ capacity := by
    have below : ⌊low⌋₊ < capacity := (Nat.floor_lt nonneg).2 (less.trans_le within)
    omega
  -- What is gained in the nanosecond is less than what the smaller number misses.
  set gain := max (n - high) ((n - low) / 2)
  have positive : 0 < gain := lt_max_of_lt_right (by linarith)
  have short : gain < n - low := max_lt (by linarith) (by linarith)
  have enough : n - high ≤ gain := le_max_left _ _
  refine ⟨gain * 1000000000, by positivity, n, size, ?_, ?_⟩
  · rw [mul_div_assoc, div_self (by norm_num)]
    linarith
  · rw [mul_div_assoc, div_self (by norm_num)]
    linarith

/-- Two different numbers of units within the capacity are told apart by a rate and a number of
units: after a nanosecond, these fit into one of them only. -/
theorem exists_rate_apart {a b : ℚ} {capacity : ℕ} (different : a ≠ b) (nonneg : 0 ≤ a)
    (within : a ≤ capacity) (nonneg' : 0 ≤ b) (within' : b ≤ capacity) :
    ∃ rate : ℚ, 0 < rate ∧ ∃ n : ℕ, n ≤ capacity ∧
      ¬((n : ℚ) ≤ a + rate / 1000000000 ↔ (n : ℚ) ≤ b + rate / 1000000000) := by
  rcases lt_or_gt_of_ne different with less | less
  · obtain ⟨rate, positive, n, size, short, enough⟩ := exists_rate_between nonneg less within'
    exact ⟨rate, positive, n, size, fun same => short.not_ge (same.2 enough)⟩
  · obtain ⟨rate, positive, n, size, short, enough⟩ := exists_rate_between nonneg' less within
    exact ⟨rate, positive, n, size, fun same => short.not_ge (same.1 enough)⟩

end Exact

/-- The instant a nanosecond later. -/
def Instant.next (now : Instant) : Instant := ⟨now.nanos + 1⟩

theorem Instant.le_next (now : Instant) : now ≤ now.next := by
  rw [Instant.le_def]
  exact Int.le_add_one (Int.le_refl _)

theorem Exact.elapsed_next (now : Instant) : (elapsed now now.next : ℚ) = 1 / 1000000000 := by
  rw [Exact.elapsed_eq now.le_next (by simp [Instant.next]), Instant.next, add_sub_cancel_left,
    Int.cast_one]

/-- The least of the capacities that a bucket gets. -/
def leastCapacity (first : ℕ) (others : List ℕ) : ℕ := others.foldl min first

/-- The capacity that a bucket gets last. -/
def lastCapacity (first : ℕ) (others : List ℕ) : ℕ := others.getLastD first

@[simp] theorem leastCapacity_append_singleton (first : ℕ) (others : List ℕ) (v : ℕ) :
    leastCapacity first (others ++ [v]) = min (leastCapacity first others) v := by
  rw [leastCapacity, List.foldl_append]
  rfl

@[simp] theorem lastCapacity_append_singleton (first : ℕ) (others : List ℕ) (v : ℕ) :
    lastCapacity first (others ++ [v]) = v := by
  rw [lastCapacity, List.getLastD_concat]

theorem leastCapacity_le_last (first : ℕ) (others : List ℕ) :
    leastCapacity first others ≤ lastCapacity first others := by
  induction others using List.reverseRecOn with
  | nil => exact le_refl _
  | append_singleton others v ih =>
    rw [leastCapacity_append_singleton, lastCapacity_append_singleton]
    exact min_le_right _ _

theorem leastCapacity_pos {first : ℕ} {others : List ℕ} (positive : 0 < first)
    (all : ∀ v ∈ others, 0 < v) : 0 < leastCapacity first others := by
  induction others using List.reverseRecOn with
  | nil => exact positive
  | append_singleton others v ih =>
    rw [leastCapacity_append_singleton]
    exact lt_min (ih fun w member => all w (List.mem_append_left _ member)) (all v (by simp))

/-! ## Token buckets -/

namespace TokenBucket

variable {b : TokenBucket ℚ} {past : Set Instant} {now : Instant} {first : ℕ} {others : List ℕ}

/-- The bucket after changes of its capacity. -/
def resize (b : TokenBucket ℚ) (first : ℕ) (others : List ℕ) : TokenBucket ℚ :=
  others.foldl setCapacity (b.setCapacity first)

/-- What holds of a bucket after calls at some instants. -/
structure Sane (past : Set Instant) (b : TokenBucket ℚ) : Prop where
  positive : 0 < b.rate
  nonneg : 0 ≤ b.tokens
  atMost : b.tokens ≤ b.capacity
  seen : ∀ last, b.lastRefill = some last → last ∈ past

/-- Changes of the capacity, made at `now` or later and before the next update, make no difference
to what has been gained before `now`: the bucket is up to date, or it has filled up under none of
its capacities, or the least new one is within the old one and stays. A bucket that has not been
asked yet is full, and has to stay full. -/
def ForwardOnly (b : TokenBucket ℚ) (now : Instant) (first : ℕ) (others : List ℕ) : Prop :=
  let least := leastCapacity first others
  match b.lastRefill with
  | none => (least : ℚ) ≤ b.tokens ∧ lastCapacity first others = least
  | some last =>
    last = now ∨ b.tokens + elapsed last now * b.rate ≤ min b.capacity least ∨
      least ≤ b.capacity ∧ lastCapacity first others = least

instance (b : TokenBucket ℚ) (now : Instant) (first : ℕ) (others : List ℕ) :
    Decidable (b.ForwardOnly now first others) :=
  match b with
  | ⟨_, _, _, none⟩ => inferInstanceAs (Decidable (_ ∧ _))
  | ⟨_, _, _, some _⟩ => inferInstanceAs (Decidable (_ ∨ _ ∨ _ ∧ _))

theorem setCapacity_eq (b : TokenBucket ℚ) (v : ℕ) :
    b.setCapacity v = { b with capacity := v, tokens := min b.tokens v } := by
  rw [setCapacity, Exact.lesser_eq_min]

/-- Of several new capacities the least one cuts the tokens, and the last one stays. -/
theorem resize_eq (b : TokenBucket ℚ) (first : ℕ) (others : List ℕ) :
    b.resize first others =
      { b with
        capacity := lastCapacity first others
        tokens := min b.tokens (leastCapacity first others) } := by
  induction others using List.reverseRecOn with
  | nil => exact setCapacity_eq b first
  | append_singleton others v ih =>
    rw [resize, List.foldl_append] at *
    rw [ih]
    simp only [List.foldl_cons, List.foldl_nil, setCapacity_eq, leastCapacity_append_singleton,
      lastCapacity_append_singleton, Nat.cast_min, min_assoc]

/-- The tokens of a refilled bucket. -/
theorem refill_eq {last : Instant} (known : b.lastRefill = some last) (order : last ≤ now)
    (atMost : b.tokens ≤ b.capacity) :
    b.refill now =
      { b with
        tokens := min (b.tokens + elapsed last now * b.rate) b.capacity
        lastRefill := some now } := by
  by_cases same : now ≤ last
  · -- The bucket is up to date.
    have equal : last = now := by
      rw [Instant.le_def] at same order
      cases last
      cases now
      simp only [Instant.mk.injEq]
      exact le_antisymm order same
    subst equal
    rw [refill_of_le known same, Exact.elapsed_self, zero_mul, add_zero, min_eq_left atMost,
      ← known]
  · simp only [refill, known, if_neg same, Exact.lesser_eq_min]

theorem lastRefill_refill {t : Instant} (seen : ∀ last, b.lastRefill = some last → last ≤ t) :
    (b.refill t).lastRefill = some t := by
  unfold refill
  split
  · rfl
  · rename_i last known
    split
    · rename_i same
      rw [known]
      exact congrArg some (congrArg Instant.mk (Int.le_antisymm (seen last known) same))
    · rfl

namespace Sane

theorem mono {past' : Set Instant} (h : Sane past b) (sub : past ⊆ past') : Sane past' b :=
  { h with seen := fun last known => sub (h.seen last known) }

/-- A new bucket is full. -/
theorem full {c : Config ℚ} (valid : c.validate = .ok ()) (past : Set Instant) :
    Sane past (full c) where
  positive := Exact.checkRate_eq_ok_iff.1 (Config.validate_eq_ok_iff.1 valid).1
  nonneg := Nat.cast_nonneg _
  atMost := le_refl _
  seen last known := by cases known

theorem refill (h : Sane past b) (member : now ∈ past) : Sane past (b.refill now) := by
  unfold TokenBucket.refill
  split
  · exact { h with seen := fun last known => by cases known; exact member }
  · rename_i last known
    split
    · exact h
    · refine ⟨h.positive, ?_, ?_, fun last known => by cases known; exact member⟩
      all_goals
        dsimp only
        rw [Exact.lesser_eq_min]
      · exact le_min (add_nonneg h.nonneg
          (mul_nonneg (Exact.elapsed_nonneg _ _) h.positive.le)) (Nat.cast_nonneg _)
      · exact min_le_right _ _

theorem allow (h : Sane past b) (member : now ∈ past) (n : ℕ) : Sane past (b.allow now n).1 := by
  have filled := h.refill member
  unfold TokenBucket.allow
  dsimp only
  split
  · rename_i enough
    refine ⟨filled.positive, sub_nonneg.2 enough, ?_, filled.seen⟩
    exact (sub_le_self _ (Nat.cast_nonneg _)).trans filled.atMost
  · exact filled

theorem setRate (h : Sane past b) (member : now ∈ past) {rate : ℚ} (positive : 0 < rate) :
    Sane past (b.setRate now rate) :=
  { h.refill member with positive := positive }

theorem setCapacity (h : Sane past b) (v : ℕ) : Sane past (b.setCapacity v) := by
  rw [setCapacity_eq]
  exact ⟨h.positive, le_min h.nonneg (Nat.cast_nonneg v), min_le_right _ _, h.seen⟩

theorem resize (h : Sane past b) (first : ℕ) (others : List ℕ) :
    Sane past (b.resize first others) := by
  rw [resize_eq]
  refine ⟨h.positive, le_min h.nonneg (Nat.cast_nonneg _), ?_, h.seen⟩
  exact (min_le_right _ _).trans (Nat.cast_le.2 (leastCapacity_le_last first others))

end Sane

/-- What a bucket holds that is brought up to date after changes of its capacity, and one that is
brought up to date before them. -/
theorem min_gain_eq_iff {tokens gain capacity least last : ℚ} (nonneg : 0 ≤ gain)
    (atMost : tokens ≤ capacity) (order : least ≤ last) :
    min (min tokens least + gain) last = min (min (tokens + gain) capacity) least ↔
      gain = 0 ∨ tokens + gain ≤ min capacity least ∨ least ≤ capacity ∧ last = least := by
  -- Both sides cut what is gained without a capacity: at `late` and, no higher, at `early`.
  set late := min (least + gain) last
  set early := min capacity least
  have least_le : least ≤ late := le_min (by linarith) order
  have early_le : early ≤ late := (min_le_right _ _).trans least_le
  rw [min_add, min_assoc, min_assoc]
  change min (tokens + gain) late = min (tokens + gain) early ↔ _
  constructor
  · intro same
    rcases le_or_gt (tokens + gain) early with fits | full
    · exact .inr (.inl fits)
    · rw [min_eq_right full.le] at same
      -- The bucket is full in both cases, so that both are cut at the same number.
      have cut : late = early := by
        rcases min_choice (tokens + gain) late with free | cut
        · exact absurd (free ▸ same) full.ne'
        · exact cut ▸ same
      have within : least ≤ capacity := least_le.trans (cut ▸ min_le_left _ _)
      have atLeast : late = least := le_antisymm (cut ▸ min_le_right _ _) least_le
      rcases min_choice (least + gain) last with gains | stays
      · exact .inl (by linarith [gains.symm.trans atLeast])
      · exact .inr (.inr ⟨within, stays.symm.trans atLeast⟩)
  · rintro (nothing | fits | ⟨within, rfl⟩)
    · rcases le_total least capacity with within | beyond
      · have cut : late = early := by
          rw [show early = least from min_eq_right within, ← min_eq_left order]
          change min (least + gain) last = _
          rw [nothing, add_zero]
        rw [cut]
      · have fits : tokens + gain ≤ early := by
          rw [show early = capacity from min_eq_left beyond, nothing, add_zero]
          exact atMost
        rw [min_eq_left fits, min_eq_left (fits.trans early_le)]
    · rw [min_eq_left fits, min_eq_left (fits.trans early_le)]
    · rw [show late = last from min_eq_right (by linarith),
        show early = last from min_eq_right within]

/-- A bucket may be refilled in two steps. -/
theorem refill_refill {last t : Instant} (sane : Sane past b) (known : b.lastRefill = some last)
    (order : last ≤ now) (later : now ≤ t) (close : t.nanos - last.nanos < 2 ^ 63) :
    (b.refill now).refill t = b.refill t := by
  have gain : 0 ≤ (elapsed now t : ℚ) * b.rate :=
    mul_nonneg (Exact.elapsed_nonneg now t) sane.positive.le
  rw [refill_eq known order sane.atMost, refill_eq known (Int.le_trans order later) sane.atMost,
    refill_eq rfl later (min_le_right _ _), ← Exact.elapsed_add_elapsed order later close, add_mul,
    ← add_assoc, min_add, min_assoc, min_eq_right (le_add_of_nonneg_right gain)]

/-- A bucket that has been asked goes on alike if and only if it holds the same when it is brought
up to date at once. -/
theorem forwardOnly_iff_tokens_eq {last : Instant} (sane : Sane past b)
    (known : b.lastRefill = some last) (order : last ≤ now)
    (close : now.nanos - last.nanos < 2 ^ 63) :
    b.ForwardOnly now first others ↔
      ((b.resize first others).refill now).tokens =
        ((b.refill now).resize first others).tokens := by
  have gain : 0 ≤ (elapsed last now : ℚ) * b.rate :=
    mul_nonneg (Exact.elapsed_nonneg last now) sane.positive.le
  have nothing := Exact.elapsed_mul_eq_zero_iff order close sane.positive
  have known' : (b.resize first others).lastRefill = some last := by rw [resize_eq, known]
  have least_le : ((leastCapacity first others : ℕ) : ℚ) ≤ (lastCapacity first others : ℕ) :=
    Nat.cast_le.2 (leastCapacity_le_last first others)
  rw [refill_eq known' order (sane.resize first others).atMost, refill_eq known order sane.atMost,
    resize_eq, resize_eq, min_gain_eq_iff gain sane.atMost least_le, nothing, Nat.cast_inj]
  simp only [ForwardOnly, known, Nat.cast_le, Nat.cast_min]

/-- **The bucket is later as if it had been brought up to date** before its capacity changed. -/
theorem refill_resize (sane : Sane past b) (order : ∀ e ∈ past, e ≤ now)
    (forward : b.ForwardOnly now first others) {t : Instant} (later : now ≤ t)
    (close : ∀ e ∈ past, t.nanos - e.nanos < 2 ^ 63) :
    (b.resize first others).refill t = ((b.refill now).resize first others).refill t := by
  cases known : b.lastRefill with
  | none =>
    simp only [ForwardOnly, known] at forward
    obtain ⟨covers, stays⟩ := forward
    -- The bucket is full, also with the new capacities.
    have gain : 0 ≤ (elapsed now t : ℚ) * b.rate :=
      mul_nonneg (Exact.elapsed_nonneg now t) sane.positive.le
    have full : b.refill now = { b with lastRefill := some now } := by rw [refill, known]
    have asked : (b.resize first others).refill t =
        { b.resize first others with lastRefill := some t } := by
      rw [refill, resize_eq, known]
    have brim : min b.tokens (leastCapacity first others) = lastCapacity first others := by
      rw [stays, min_eq_right covers]
    rw [asked, full, resize_eq, resize_eq, refill_eq rfl later brim.le]
    simp only [brim, min_eq_right (le_add_of_nonneg_right gain)]
  | some last =>
    have member := sane.seen last known
    have before := order last member
    have known' : (b.resize first others).lastRefill = some last := by rw [resize_eq, known]
    have soon : now.nanos - last.nanos < 2 ^ 63 := by
      have := close last member
      rw [Instant.le_def] at later
      omega
    have settled : (b.resize first others).refill now = (b.refill now).resize first others := by
      have same := (forwardOnly_iff_tokens_eq sane known before soon).1 forward
      rw [refill_eq known' before (sane.resize first others).atMost,
        refill_eq known before sane.atMost, resize_eq, resize_eq] at same ⊢
      simp only at same ⊢
      rw [same]
    rw [← settled, refill_refill (sane.resize first others) known' before later (close last member)]

/-! ### Telling buckets apart -/

theorem capacity_refill (b : TokenBucket ℚ) (now : Instant) :
    (b.refill now).capacity = b.capacity := by
  unfold refill
  split
  · rfl
  · split <;> rfl

theorem rate_refill (b : TokenBucket ℚ) (now : Instant) : (b.refill now).rate = b.rate := by
  unfold refill
  split
  · rfl
  · split <;> rfl

/-- What passes a nanosecond after a change of the rate. -/
theorem allow_setRate_snd {t : Instant} (sane : Sane past b) (order : ∀ e ∈ past, e ≤ t) (rate : ℚ)
    {n : ℕ} (size : n ≤ b.capacity) :
    ((b.setRate t rate).allow t.next n).2 =
      decide ((n : ℚ) ≤ (b.refill t).tokens + rate / 1000000000) := by
  have known : (b.refill t).lastRefill = some t :=
    lastRefill_refill fun last known => order last (sane.seen last known)
  have filled := (sane.mono (Set.subset_insert t past)).refill (Set.mem_insert t past)
  have gained := refill_eq (b := b.setRate t rate) known t.le_next filled.atMost
  rw [allow_snd, gained, Exact.elapsed_next]
  refine decide_eq_decide.2 ?_
  dsimp only [setRate]
  rw [capacity_refill, le_min_iff, one_div_mul_eq_div]
  exact and_iff_left (Nat.cast_le.2 size)

/-- Two buckets that hold different numbers of tokens are told apart. -/
theorem exists_apart_of_tokens_ne {b' : TokenBucket ℚ} {t : Instant} (sane : Sane past b)
    (sane' : Sane past b') (order : ∀ e ∈ past, e ≤ t) (same : b'.capacity = b.capacity)
    (different : (b.refill t).tokens ≠ (b'.refill t).tokens) :
    ∃ rate : ℚ, 0 < rate ∧ ∃ n,
      ((b.setRate t rate).allow t.next n).2 ≠ ((b'.setRate t rate).allow t.next n).2 := by
  have filled := (sane.mono (Set.subset_insert t past)).refill (Set.mem_insert t past)
  have filled' := (sane'.mono (Set.subset_insert t past)).refill (Set.mem_insert t past)
  have within' : (b'.refill t).tokens ≤ b.capacity := by
    rw [← same, ← capacity_refill b' t]
    exact filled'.atMost
  obtain ⟨rate, positive, n, size, apart⟩ := Exact.exists_rate_apart different filled.nonneg
    (capacity_refill b t ▸ filled.atMost) filled'.nonneg within'
  refine ⟨rate, positive, n, fun equal => apart ?_⟩
  rw [allow_setRate_snd sane order rate size,
    allow_setRate_snd sane' order rate (size.trans_eq same.symm)] at equal
  exact decide_eq_decide.1 equal

/-- **A request can tell** whether a bucket has been brought up to date before changes of its
capacity that are not forward-only. -/
theorem exists_told_apart (sane : Sane past b) (order : ∀ e ∈ past, e ≤ now)
    (close : ∀ e ∈ past, now.nanos - e.nanos < 2 ^ 63)
    (backward : ¬b.ForwardOnly now first others) :
    ∃ t, (t = now ∨ t = now.next) ∧ ∃ rate : ℚ, 0 < rate ∧ ∃ n,
      (((b.resize first others).setRate t rate).allow t.next n).2 ≠
        ((((b.refill now).resize first others).setRate t rate).allow t.next n).2 := by
  have ahead : ∀ e ∈ insert now past, e ≤ now :=
    Set.forall_mem_insert.2 ⟨Int.le_refl _, order⟩
  have sane' := sane.mono (Set.subset_insert now past)
  have filled := sane'.refill (Set.mem_insert now past)
  have same : ((b.refill now).resize first others).capacity = (b.resize first others).capacity := by
    rw [resize_eq, resize_eq]
  cases known : b.lastRefill with
  | none =>
    -- A bucket that has not been asked gains nothing up to the next nanosecond.
    refine ⟨now.next, .inr rfl, exists_apart_of_tokens_ne (sane'.resize first others)
      (filled.resize first others) (fun e member => Int.le_trans (ahead e member) now.le_next)
      same (ne_of_lt ?_)⟩
    have full : b.refill now = { b with lastRefill := some now } := by rw [refill, known]
    have room : min b.tokens (leastCapacity first others) < lastCapacity first others := by
      simp only [ForwardOnly, known, not_and_or, not_le] at backward
      rcases backward with less | changes
      · exact (min_le_left _ _).trans_lt
          (less.trans_le (Nat.cast_le.2 (leastCapacity_le_last first others)))
      · exact (min_le_right _ _).trans_lt
          (Nat.cast_lt.2 (lt_of_le_of_ne (leastCapacity_le_last first others) (Ne.symm changes)))
    have gain : 0 < (elapsed now now.next : ℚ) * b.rate := by
      rw [Exact.elapsed_next]
      exact mul_pos (by norm_num) sane.positive
    have stands : ((b.resize first others).refill now.next).tokens =
        min b.tokens (leastCapacity first others) := by
      rw [refill, resize_eq, known]
    rw [stands, full, resize_eq, refill_eq rfl now.le_next room.le]
    exact lt_min (lt_add_of_pos_right _ gain) room
  | some last =>
    refine ⟨now, .inl rfl, exists_apart_of_tokens_ne (sane'.resize first others)
      (filled.resize first others) ahead same fun equal => backward ?_⟩
    have member := sane.seen last known
    have upToDate : ((b.refill now).resize first others).lastRefill = some now := by
      rw [resize_eq]
      exact lastRefill_refill fun last known => order last (sane.seen last known)
    rw [refill_of_le upToDate (Int.le_refl _)] at equal
    exact (forwardOnly_iff_tokens_eq sane known (order last member) (close last member)).2 equal

end TokenBucket

/-! ## Leaky buckets -/

namespace LeakyBucket

variable {b : LeakyBucket ℚ} {past : Set Instant} {now : Instant} {first : ℕ} {others : List ℕ}

/-- The bucket after changes of its volume. -/
def resize (b : LeakyBucket ℚ) (first : ℕ) (others : List ℕ) : LeakyBucket ℚ :=
  others.foldl setVolume (b.setVolume first)

/-- What holds of a bucket after calls at some instants. -/
structure Sane (past : Set Instant) (b : LeakyBucket ℚ) : Prop where
  positive : 0 < b.rate
  nonneg : 0 ≤ b.level
  atMost : b.level ≤ b.volume
  seen : ∀ last, b.lastDrain = some last → last ∈ past
  dry : b.lastDrain = none → b.level = 0

/-- Changes of the volume, made at `now` or later and before the next update, make no difference to
what has drained before `now`: the bucket is up to date, or what it held fits into all of its
volumes, or it has run dry. -/
def ForwardOnly (b : LeakyBucket ℚ) (now : Instant) (first : ℕ) (others : List ℕ) : Prop :=
  match b.lastDrain with
  | none => True
  | some last =>
    last = now ∨ b.level ≤ leastCapacity first others ∨ b.level ≤ elapsed last now * b.rate

instance (b : LeakyBucket ℚ) (now : Instant) (first : ℕ) (others : List ℕ) :
    Decidable (b.ForwardOnly now first others) :=
  match b with
  | ⟨_, _, _, none⟩ => inferInstanceAs (Decidable True)
  | ⟨_, _, _, some _⟩ => inferInstanceAs (Decidable (_ ∨ _ ∨ _))

theorem setVolume_eq (b : LeakyBucket ℚ) (v : ℕ) :
    b.setVolume v = { b with volume := v, level := min b.level v } := by
  rw [setVolume, Exact.lesser_eq_min]

/-- Of several new volumes the least one cuts the level, and the last one stays. -/
theorem resize_eq (b : LeakyBucket ℚ) (first : ℕ) (others : List ℕ) :
    b.resize first others =
      { b with
        volume := lastCapacity first others
        level := min b.level (leastCapacity first others) } := by
  induction others using List.reverseRecOn with
  | nil => exact setVolume_eq b first
  | append_singleton others v ih =>
    rw [resize, List.foldl_append] at *
    rw [ih]
    simp only [List.foldl_cons, List.foldl_nil, setVolume_eq, leastCapacity_append_singleton,
      lastCapacity_append_singleton, Nat.cast_min, min_assoc]

/-- The level of a drained bucket. -/
theorem drain_eq {last : Instant} (known : b.lastDrain = some last) :
    b.drain now =
      { b with
        level := max (b.level - elapsed last now * b.rate) 0
        lastDrain := some now } := by
  simp only [drain, known, Exact.greater_eq_max, Nat.cast_zero]

theorem lastDrain_drain (b : LeakyBucket ℚ) (now : Instant) :
    (b.drain now).lastDrain = some now := by
  unfold drain
  split <;> rfl

theorem rate_drain (b : LeakyBucket ℚ) (now : Instant) : (b.drain now).rate = b.rate := by
  unfold drain
  split <;> rfl

theorem volume_drain (b : LeakyBucket ℚ) (now : Instant) : (b.drain now).volume = b.volume := by
  unfold drain
  split <;> rfl

namespace Sane

theorem mono {past' : Set Instant} (h : Sane past b) (sub : past ⊆ past') : Sane past' b :=
  { h with seen := fun last known => sub (h.seen last known) }

/-- A new bucket is dry. -/
theorem new {c : Config ℚ} (valid : c.validate = .ok ()) (past : Set Instant) :
    Sane past (LeakyBucket.dry c) where
  positive := Exact.checkRate_eq_ok_iff.1 (Config.validate_eq_ok_iff.1 valid).1
  nonneg := Nat.cast_nonneg _
  atMost := Nat.cast_le.2 (Nat.zero_le _)
  seen last known := by cases known
  dry _ := Nat.cast_zero

theorem drain (h : Sane past b) (member : now ∈ past) : Sane past (b.drain now) := by
  cases known : b.lastDrain with
  | none =>
    have dry : b.drain now = { b with lastDrain := some now } := by rw [LeakyBucket.drain, known]
    rw [dry]
    exact { h with
      seen := fun last known => by cases known; exact member
      dry := fun known => by cases known }
  | some last =>
    rw [drain_eq known]
    have leaks : 0 ≤ (elapsed last now : ℚ) * b.rate :=
      mul_nonneg (Exact.elapsed_nonneg last now) h.positive.le
    exact {
      positive := h.positive
      nonneg := le_max_right _ _
      atMost := max_le (by linarith [h.atMost]) (Nat.cast_nonneg _)
      seen := fun last known => by cases known; exact member
      dry := fun known => by cases known }

theorem allow (h : Sane past b) (member : now ∈ past) (n : ℕ) : Sane past (b.allow now n).1 := by
  have drained := h.drain member
  have asked : ∀ known : (b.drain now).lastDrain = none, False := by
    rw [lastDrain_drain]
    rintro ⟨⟩
  unfold LeakyBucket.allow
  dsimp only
  split
  · exact ⟨drained.positive, Nat.cast_nonneg _, le_refl _, drained.seen,
      fun known => (asked known).elim⟩
  · rename_i fits
    rw [Exact.below_iff, not_lt] at fits
    exact ⟨drained.positive, add_nonneg drained.nonneg (Nat.cast_nonneg n), fits, drained.seen,
      fun known => (asked known).elim⟩

theorem setRate (h : Sane past b) (member : now ∈ past) {rate : ℚ} (positive : 0 < rate) :
    Sane past (b.setRate now rate) :=
  { h.drain member with positive := positive }

theorem resize (h : Sane past b) (first : ℕ) (others : List ℕ) :
    Sane past (b.resize first others) := by
  rw [resize_eq]
  refine ⟨h.positive, le_min h.nonneg (Nat.cast_nonneg _), ?_, h.seen, fun known => ?_⟩
  · exact (min_le_right _ _).trans (Nat.cast_le.2 (leastCapacity_le_last first others))
  · dsimp only at known ⊢
    rw [h.dry known]
    exact min_eq_left (Nat.cast_nonneg _)

theorem setVolume (h : Sane past b) (v : ℕ) : Sane past (b.setVolume v) := h.resize v []

end Sane

/-- What a bucket holds that is drained after changes of its volume, and one that is drained before
them. -/
theorem max_drain_eq_iff {level leak least : ℚ} (positive : 0 < least) (nonneg : 0 ≤ leak)
    (held : 0 ≤ level) :
    max (min level least - leak) 0 = min (max (level - leak) 0) least ↔
      leak = 0 ∨ level ≤ least ∨ level ≤ leak := by
  constructor
  · intro same
    by_contra! excess
    obtain ⟨leaks, above, left⟩ := excess
    have drains : 0 < leak := lt_of_le_of_ne nonneg leaks.symm
    rw [min_eq_right above.le, max_eq_left (a := level - leak) (by linarith)] at same
    -- What is left is less than the smaller volume, and not nothing.
    have less : max (least - leak) 0 < min (level - leak) least :=
      lt_min (max_lt (by linarith) (by linarith)) (max_lt (by linarith) positive)
    exact less.ne same
  · rintro (rfl | fits | dry)
    · rw [sub_zero, sub_zero, max_eq_left held, max_eq_left (le_min held positive.le)]
    · rw [min_eq_left fits, min_eq_left (max_le (by linarith) positive.le)]
    · rw [max_eq_right (by linarith : level - leak ≤ 0), min_eq_left positive.le]
      exact max_eq_right (by linarith [min_le_left level least])

/-- A bucket may be drained in two steps. -/
theorem drain_drain {last t : Instant} (sane : Sane past b) (known : b.lastDrain = some last)
    (order : last ≤ now) (later : now ≤ t) (close : t.nanos - last.nanos < 2 ^ 63) :
    (b.drain now).drain t = b.drain t := by
  have leaks : 0 ≤ (elapsed now t : ℚ) * b.rate :=
    mul_nonneg (Exact.elapsed_nonneg now t) sane.positive.le
  rw [drain_eq known, drain_eq known, drain_eq rfl,
    ← Exact.elapsed_add_elapsed order later close]
  dsimp only
  rw [← max_sub_sub_right, max_assoc, max_eq_right (by linarith : 0 - _ * b.rate ≤ 0)]
  ring_nf

/-- A bucket that has been asked goes on alike if and only if it holds the same when it is brought
up to date at once. -/
theorem forwardOnly_iff_level_eq {last : Instant} (sane : Sane past b)
    (known : b.lastDrain = some last) (order : last ≤ now)
    (close : now.nanos - last.nanos < 2 ^ 63) (positive : 0 < leastCapacity first others) :
    b.ForwardOnly now first others ↔
      ((b.resize first others).drain now).level = ((b.drain now).resize first others).level := by
  have leaks : 0 ≤ (elapsed last now : ℚ) * b.rate :=
    mul_nonneg (Exact.elapsed_nonneg last now) sane.positive.le
  have nothing := Exact.elapsed_mul_eq_zero_iff order close sane.positive
  have known' : (b.resize first others).lastDrain = some last := by rw [resize_eq, known]
  rw [drain_eq known', drain_eq known, resize_eq, resize_eq,
    max_drain_eq_iff (Nat.cast_pos.2 positive) leaks sane.nonneg, nothing]
  simp only [ForwardOnly, known]

/-- **The bucket is later as if it had been brought up to date** before its volume changed. -/
theorem drain_resize (sane : Sane past b) (order : ∀ e ∈ past, e ≤ now)
    (positive : 0 < leastCapacity first others) (forward : b.ForwardOnly now first others)
    {t : Instant} (later : now ≤ t) (close : ∀ e ∈ past, t.nanos - e.nanos < 2 ^ 63) :
    (b.resize first others).drain t = ((b.drain now).resize first others).drain t := by
  cases known : b.lastDrain with
  | none =>
    -- A bucket that has not been asked is dry.
    have leaks : 0 ≤ (elapsed now t : ℚ) * b.rate :=
      mul_nonneg (Exact.elapsed_nonneg now t) sane.positive.le
    have dry : b.drain now = { b with lastDrain := some now } := by rw [drain, known]
    have asked : (b.resize first others).drain t =
        { b.resize first others with lastDrain := some t } := by
      rw [drain, resize_eq, known]
    have empty : min b.level (leastCapacity first others) = 0 := by
      rw [sane.dry known]
      exact min_eq_left (Nat.cast_nonneg _)
    rw [asked, dry, resize_eq, resize_eq, drain_eq rfl]
    simp only [empty, max_eq_right (by linarith : 0 - (elapsed now t : ℚ) * b.rate ≤ 0)]
  | some last =>
    have member := sane.seen last known
    have before := order last member
    have known' : (b.resize first others).lastDrain = some last := by rw [resize_eq, known]
    have soon : now.nanos - last.nanos < 2 ^ 63 := by
      have := close last member
      rw [Instant.le_def] at later
      omega
    have settled : (b.resize first others).drain now = (b.drain now).resize first others := by
      have same := (forwardOnly_iff_level_eq sane known before soon positive).1 forward
      rw [drain_eq known', drain_eq known, resize_eq, resize_eq] at same ⊢
      simp only at same ⊢
      rw [same]
    rw [← settled, drain_drain (sane.resize first others) known' before later (close last member)]

/-! ### Telling buckets apart -/

/-- What passes a nanosecond after a change of the rate. -/
theorem allow_setRate_snd {t : Instant} (b : LeakyBucket ℚ) (rate : ℚ) {n : ℕ}
    (size : n ≤ b.volume) :
    ((b.setRate t rate).allow t.next n).2 =
      decide ((n : ℚ) ≤ b.volume - (b.drain t).level + rate / 1000000000) := by
  have drained := @drain_eq (b.setRate t rate) t.next t (lastDrain_drain b t)
  have fits : (n : ℚ) ≤ b.volume := Nat.cast_le.2 size
  rw [allow_snd, drained, Exact.elapsed_next, Bool.eq_iff_iff, Bool.not_eq_true',
    ← Bool.not_eq_true, Exact.below_iff, not_lt, decide_eq_true_iff]
  dsimp only [setRate]
  rw [volume_drain, ← max_add_add_right, max_le_iff, one_div_mul_eq_div]
  constructor
  · rintro ⟨drained, -⟩
    linarith
  · intro enough
    exact ⟨by linarith, by linarith⟩

/-- **A request can tell** whether a bucket has been brought up to date before changes of its volume
that are not forward-only. -/
theorem exists_told_apart (sane : Sane past b) (order : ∀ e ∈ past, e ≤ now)
    (close : ∀ e ∈ past, now.nanos - e.nanos < 2 ^ 63)
    (positive : 0 < leastCapacity first others) (backward : ¬b.ForwardOnly now first others) :
    ∃ rate : ℚ, 0 < rate ∧ ∃ n,
      (((b.resize first others).setRate now rate).allow now.next n).2 ≠
        ((((b.drain now).resize first others).setRate now rate).allow now.next n).2 := by
  have sane' := sane.mono (Set.subset_insert now past)
  have here : now ∈ insert now past := Set.mem_insert now past
  cases known : b.lastDrain with
  | none =>
    simp only [ForwardOnly, known, not_true] at backward
  | some last =>
    have member := sane.seen last known
    have drained := (sane'.resize first others).drain here
    have drained' := (sane'.drain here).resize first others
    -- A bucket that is up to date stays as it is.
    have upToDate : (((b.drain now).resize first others).drain now).level =
        ((b.drain now).resize first others).level := by
      have known : ((b.drain now).resize first others).lastDrain = some now := by
        rw [resize_eq]
        exact lastDrain_drain b now
      rw [drain_eq known, Exact.elapsed_self, zero_mul, sub_zero]
      exact max_eq_left drained'.nonneg
    have same : ((b.drain now).resize first others).volume = (b.resize first others).volume := by
      rw [resize_eq, resize_eq]
    have different : ((b.resize first others).drain now).level ≠
        ((b.drain now).resize first others).level := fun equal => backward
      ((forwardOnly_iff_level_eq sane known (order last member) (close last member) positive).2
        equal)
    have atMost : _ ≤ (((b.resize first others).volume : ℕ) : ℚ) :=
      volume_drain (b.resize first others) now ▸ drained.atMost
    have atMost' : _ ≤ (((b.resize first others).volume : ℕ) : ℚ) := same ▸ drained'.atMost
    obtain ⟨rate, faster, n, size, apart⟩ := Exact.exists_rate_apart
      (fun equal => different (sub_right_injective equal)) (sub_nonneg.2 atMost)
      (sub_le_self _ drained.nonneg) (sub_nonneg.2 atMost') (sub_le_self _ drained'.nonneg)
    refine ⟨rate, faster, n, fun equal => apart ?_⟩
    rw [allow_setRate_snd _ rate size, allow_setRate_snd _ rate (size.trans_eq same.symm), upToDate,
      same] at equal
    exact decide_eq_decide.1 equal

end LeakyBucket

end Throttle
