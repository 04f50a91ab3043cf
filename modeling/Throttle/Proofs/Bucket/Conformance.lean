import Mathlib.Algebra.BigOperators.Intervals
import Mathlib.Tactic.Linarith
import Throttle.Bucket.Token
import Throttle.Proofs.Arithmetic.Exact

/-!
# What a token bucket lets through

With exact numbers the decisions of a token bucket have a closed form. The time of a bucket is the
greatest instant it has seen, so that an instant before it gains nothing. A meter that never fills
up runs beside the bucket and adds up what the rates in force bring in that time. A request passes
exactly if, from every earlier request on, the units let through with its own are at most the
capacity and what the meter has gained since that request.

## Main definitions

* `TokenBucket.Step`: a request or a change of the rate
* `TokenBucket.Meter`: the time of a bucket, the rate in force, and the tokens gained so far
* `TokenBucket.passes`, `TokenBucket.taken`: the decision on a step, and the units it lets through

## Main results

* `TokenBucket.Follows.refill`: between steps, the bucket gains what the meter gains, up to its
  capacity
* `TokenBucket.passes_iff`: the closed form of every decision
-/

namespace Throttle

namespace TokenBucket

/-- What is done with a bucket whose capacity stays. -/
inductive Step where
  /-- A request of `n` units. -/
  | allow (now : Instant) (n : ℕ)
  | setRate (now : Instant) (rate : ℚ) (positive : 0 < rate)

/-- The time of a step. -/
def Step.time : Step → Instant
  | allow now _ => now
  | setRate now _ _ => now

/-- Whether a step is a request. -/
def Step.IsRequest : Step → Prop
  | allow _ _ => True
  | setRate _ _ _ => False

/-- The bucket after a step. -/
def next (b : TokenBucket ℚ) : Step → TokenBucket ℚ
  | .allow now n => (b.allow now n).1
  | .setRate now rate _ => b.setRate now rate

/-- A new bucket after a sequence of steps. -/
def after (c : Config ℚ) (steps : List Step) : TokenBucket ℚ := steps.foldl next (full c)

/-- Whether the step numbered `k` is a request that passes. -/
def passes (c : Config ℚ) (steps : List Step) (k : ℕ) : Bool :=
  match steps[k]? with
  | some (.allow now n) => ((after c (steps.take k)).allow now n).2
  | _ => false

/-- The units that the step numbered `k` lets through. -/
def taken (c : Config ℚ) (steps : List Step) (k : ℕ) : ℕ :=
  match steps[k]? with
  | some (.allow _ n) => if passes c steps k then n else 0
  | _ => 0

/-! ## The meter -/

/-- What the rates in force bring in the time of a bucket. -/
structure Meter where
  mark : Option Instant
  rate : ℚ
  /-- The integral of the rate in force over the time up to the mark. -/
  gained : ℚ

namespace Meter

/-- A meter that has seen nothing. -/
def start (c : Config ℚ) : Meter := ⟨none, c.rate, 0⟩

/-- The mark after an instant: an instant before it leaves it where it is. -/
def advance : Option Instant → Instant → Instant
  | none, now => now
  | some mark, now => if now ≤ mark then mark else now

/-- The seconds that an instant moves the mark. The first instant starts the time. -/
def seconds (mark : Option Instant) (now : Instant) : ℚ :=
  match mark with
  | none => 0
  | some last => ((advance mark now).nanos - last.nanos : ℤ) / 1000000000

/-- The meter after a step. A new rate is in force from the mark of its own step on. -/
def next (m : Meter) (s : Step) : Meter where
  mark := some (advance m.mark s.time)
  rate := match s with
    | .allow _ _ => m.rate
    | .setRate _ rate _ => rate
  gained := m.gained + m.rate * seconds m.mark s.time

end Meter

/-- The meter of a new bucket after a sequence of steps. -/
def meter (c : Config ℚ) (steps : List Step) : Meter := steps.foldl Meter.next (Meter.start c)

/-- What the meter has gained with the first `k` steps. -/
def gained (c : Config ℚ) (steps : List Step) (k : ℕ) : ℚ := (meter c (steps.take k)).gained

theorem after_concat (c : Config ℚ) (steps : List Step) (s : Step) :
    after c (steps ++ [s]) = (after c steps).next s := by
  simp [after]

theorem meter_concat (c : Config ℚ) (steps : List Step) (s : Step) :
    meter c (steps ++ [s]) = (meter c steps).next s := by
  simp [meter]

/-- A bucket and a meter that have seen the same steps have the same time and the same rate, and the
bucket is not fuller than full. -/
structure Follows (c : Config ℚ) (steps : List Step) (b : TokenBucket ℚ) (m : Meter) : Prop where
  capacity : b.capacity = c.burst
  rate : b.rate = m.rate
  mark : b.lastRefill = m.mark
  positive : 0 < m.rate
  seen : ∀ mark, m.mark = some mark → ∃ s ∈ steps, s.time = mark
  atMost : b.tokens ≤ c.burst

namespace Follows

variable {c : Config ℚ} {steps : List Step} {b : TokenBucket ℚ} {m : Meter}

theorem seconds_nonneg (mark : Option Instant) (now : Instant) : 0 ≤ Meter.seconds mark now := by
  cases mark with
  | none => exact le_refl 0
  | some last =>
    simp only [Meter.seconds, Meter.advance]
    split
    · simp
    · rename_i later
      rw [Instant.le_def, not_le] at later
      exact div_nonneg (Int.cast_nonneg (by omega)) (by norm_num)

/-- Between steps, the bucket gains what the meter gains, up to its capacity. -/
theorem refill (f : Follows c steps b m) {now : Instant}
    (close : ∀ s ∈ steps, now.nanos - s.time.nanos < 2 ^ 63) :
    b.refill now =
      { b with
        tokens := min (b.tokens + m.rate * Meter.seconds m.mark now) c.burst
        lastRefill := some (Meter.advance m.mark now) } := by
  have full : min b.tokens c.burst = b.tokens := min_eq_left f.atMost
  cases marked : m.mark with
  | none =>
    -- The first instant starts the time and brings nothing.
    have fresh : b.lastRefill = none := f.mark.trans marked
    simp only [TokenBucket.refill, fresh, Meter.seconds, Meter.advance, mul_zero, add_zero, full]
  | some last =>
    obtain ⟨s, member, rfl⟩ := f.seen last marked
    have known : b.lastRefill = some s.time := f.mark.trans marked
    by_cases order : now ≤ s.time
    -- An instant before the mark moves neither the bucket nor the meter.
    · rw [refill_of_le known order]
      simp only [Meter.seconds, Meter.advance, if_pos order, sub_self, Int.cast_zero, zero_div,
        mul_zero, add_zero, full, ← known]
    -- The bucket counts the seconds from the mark, as the meter does.
    · have forward : s.time ≤ now := by
        rw [Instant.le_def] at order ⊢
        omega
      simp only [TokenBucket.refill, known, Meter.seconds, Meter.advance, if_neg order,
        Exact.lesser_eq_min, Exact.elapsed_eq forward (close s member), f.rate, f.capacity,
        mul_comm]

/-- A request passes if its units fit into what the bucket then holds. -/
theorem allow_snd_iff (f : Follows c steps b m) {now : Instant} (n : ℕ)
    (close : ∀ s ∈ steps, now.nanos - s.time.nanos < 2 ^ 63) :
    (b.allow now n).2 = true ↔
      (n : ℚ) ≤ min (b.tokens + m.rate * Meter.seconds m.mark now) c.burst := by
  rw [allow_snd, f.refill close, decide_eq_true_eq]

/-- A step keeps the bucket and the meter together. -/
theorem next (f : Follows c steps b m) {s : Step}
    (close : ∀ t ∈ steps, s.time.nanos - t.time.nanos < 2 ^ 63) :
    Follows c (steps ++ [s]) (b.next s) (m.next s) := by
  have seen : ∀ mark, some (Meter.advance m.mark s.time) = some mark →
      ∃ t ∈ steps ++ [s], t.time = mark := by
    rintro _ ⟨⟩
    -- The mark is the time of this step or of the one that set it before.
    cases marked : m.mark with
    | none => exact ⟨s, by simp, rfl⟩
    | some last =>
      obtain ⟨t, member, rfl⟩ := f.seen last marked
      by_cases order : s.time ≤ t.time
      · exact ⟨t, List.mem_append_left _ member, by rw [Meter.advance, if_pos order]⟩
      · exact ⟨s, by simp, by rw [Meter.advance, if_neg order]⟩
  have atMost : (b.refill s.time).tokens ≤ c.burst := by
    rw [f.refill close]
    exact min_le_right _ _
  cases s with
  | allow now n =>
    have refilled := f.refill close
    simp only [Step.time] at refilled atMost
    refine ⟨?_, ?_, ?_, f.positive, seen, ?_⟩
    · simp only [TokenBucket.next, allow_fst, refilled, f.capacity]
    · simp only [TokenBucket.next, Meter.next, allow_fst, refilled, f.rate]
    · simp only [TokenBucket.next, Meter.next, Step.time, allow_fst, refilled]
    · simp only [TokenBucket.next, allow_fst]
      split
      · exact (sub_le_self _ (Nat.cast_nonneg n)).trans atMost
      · exact atMost
  | setRate now rate positive =>
    have refilled := f.refill close
    simp only [Step.time] at refilled atMost
    refine ⟨?_, rfl, ?_, positive, seen, atMost⟩
    · simp only [TokenBucket.next, setRate, refilled, f.capacity]
    · simp only [TokenBucket.next, Meter.next, Step.time, setRate, refilled]

end Follows

/-! ## Runs -/

section Runs

variable {c : Config ℚ} {steps : List Step}

/-- Any two steps are less than 63 bits of nanoseconds apart. -/
def Close (steps : List Step) : Prop :=
  ∀ s ∈ steps, ∀ t ∈ steps, s.time.nanos - t.time.nanos < 2 ^ 63

theorem Close.of_sublist {more : List Step} (close : Close more) (h : steps.Sublist more) :
    Close steps := fun s hs t ht => close s (h.mem hs) t (h.mem ht)

/-- The bucket and the meter stay together in every run. -/
theorem follows_of_close (valid : c.validate = .ok ()) (close : Close steps) :
    Follows c steps (after c steps) (meter c steps) := by
  induction steps using List.reverseRecOn with
  | nil =>
    have positive : 0 < c.rate := Exact.checkRate_eq_ok_iff.1 (Config.validate_eq_ok_iff.1 valid).1
    exact ⟨rfl, rfl, rfl, positive, by simp [meter, Meter.start], le_refl _⟩
  | append_singleton steps s ih =>
    rw [after_concat, meter_concat]
    exact (ih (close.of_sublist (List.sublist_append_left _ _))).next
      fun t member => close s (by simp) t (List.mem_append_left _ member)

variable {j : ℕ} {s : Step}

theorem take_succ_eq (here : steps[j]? = some s) : steps.take (j + 1) = steps.take j ++ [s] := by
  rw [List.take_add_one, here]
  rfl

theorem gained_succ (here : steps[j]? = some s) :
    gained c steps (j + 1) =
      gained c steps j +
        (meter c (steps.take j)).rate * Meter.seconds (meter c (steps.take j)).mark s.time := by
  rw [gained, take_succ_eq here, meter_concat]
  rfl

/-- The meter never runs back. -/
theorem gained_le_succ (valid : c.validate = .ok ()) (close : Close steps)
    (here : steps[j]? = some s) : gained c steps j ≤ gained c steps (j + 1) := by
  have f := follows_of_close valid (close.of_sublist (List.take_sublist j steps))
  rw [gained_succ here]
  exact le_add_of_nonneg_right (mul_nonneg f.positive.le (Follows.seconds_nonneg _ _))

/-- The tokens before the step numbered `k`. -/
def tokensBefore (c : Config ℚ) (steps : List Step) (k : ℕ) : ℚ := (after c (steps.take k)).tokens

/-- A request passes if its units fit into what the bucket holds after the gain of its step. -/
theorem passes_iff_le (valid : c.validate = .ok ()) (close : Close steps) {now : Instant} {n : ℕ}
    (here : steps[j]? = some (.allow now n)) :
    passes c steps j = true ↔
      (n : ℚ) ≤ min (tokensBefore c steps j + (gained c steps (j + 1) - gained c steps j))
        c.burst := by
  have f := follows_of_close valid (close.of_sublist (List.take_sublist j steps))
  rw [gained_succ here, add_sub_cancel_left, passes, here]
  exact f.allow_snd_iff n fun t member =>
    close _ (List.mem_of_getElem? here) t (List.mem_of_mem_take member)

/-- A step gains what the meter gains, up to the capacity, and then loses what it lets through. -/
theorem tokensBefore_succ (valid : c.validate = .ok ()) (close : Close steps)
    (here : steps[j]? = some s) :
    tokensBefore c steps (j + 1) =
      min (tokensBefore c steps j + (gained c steps (j + 1) - gained c steps j)) c.burst -
        taken c steps j := by
  have f := follows_of_close valid (close.of_sublist (List.take_sublist j steps))
  have refilled := f.refill fun t member =>
    close s (List.mem_of_getElem? here) t (List.mem_of_mem_take member)
  rw [gained_succ here, add_sub_cancel_left, tokensBefore, take_succ_eq here, after_concat]
  cases s with
  | allow now n =>
    simp only [next, allow_fst, taken, passes, here]
    simp only [Step.time] at refilled
    rw [refilled]
    split
    · rfl
    · simp [tokensBefore, Step.time]
  | setRate now rate positive =>
    simp only [next, setRate, taken, here, Nat.cast_zero, sub_zero]
    simp only [Step.time] at refilled
    rw [refilled]
    rfl

/-! ## The closed form -/

/-- What the step numbered `i` and the steps after it, up to the one numbered `j`, let through. -/
def takenFrom (c : Config ℚ) (steps : List Step) (i j : ℕ) : ℕ :=
  ∑ k ∈ Finset.Ico i j, taken c steps k

theorem takenFrom_self (j : ℕ) : takenFrom c steps j j = 0 := by simp [takenFrom]

theorem takenFrom_succ {i : ℕ} (h : i ≤ j) :
    takenFrom c steps i (j + 1) = takenFrom c steps i j + taken c steps j :=
  Finset.sum_Ico_succ_top h _

/-- Whether the step numbered `i` is a request. -/
def IsRequestAt (steps : List Step) (i : ℕ) : Prop := ∃ s ∈ steps[i]?, s.IsRequest

/-- Whether `x` units are free before the step numbered `j`, after a further gain of `δ`, counted
from every earlier request on. -/
def FreeSince (c : Config ℚ) (steps : List Step) (j : ℕ) (δ x : ℚ) : Prop :=
  ∀ i < j, IsRequestAt steps i →
    takenFrom c steps i j + x ≤ c.burst + (gained c steps j + δ - gained c steps (i + 1))

/-- A step that is no request lets nothing through. -/
theorem taken_eq_zero (h : ¬IsRequestAt steps j) : taken c steps j = 0 := by
  unfold taken
  split
  · rename_i now n here
    exact absurd ⟨.allow now n, by simp [here], trivial⟩ h
  · rfl

/-- What is free since every request up to the last step: that step's own units fit, and the units
of both are free since every request before it. -/
theorem freeSince_succ_iff {δ x : ℚ} :
    FreeSince c steps (j + 1) δ x ↔
      FreeSince c steps j (gained c steps (j + 1) - gained c steps j) (x + taken c steps j - δ) ∧
        (IsRequestAt steps j → x + taken c steps j - δ ≤ c.burst) := by
  constructor
  · intro free
    -- The sum ends with the last step, and from that step on there is no other.
    refine ⟨fun i hi request => ?_, fun request => ?_⟩
    · have since := free i (by omega) request
      rw [takenFrom_succ (by omega), Nat.cast_add] at since
      linarith
    · have since := free j (by omega) request
      rw [takenFrom_succ (le_refl j), takenFrom_self, zero_add] at since
      linarith
  · rintro ⟨before, last⟩ i hi request
    rw [takenFrom_succ (by omega), Nat.cast_add]
    -- The same two cases, back from their sums.
    rcases Nat.lt_succ_iff_lt_or_eq.1 hi with earlier | rfl
    · have since := before i earlier request
      linarith
    · have fits := last request
      rw [takenFrom_self, Nat.cast_zero]
      linarith

/-- **The tokens of a bucket in closed form.** The clamp at the capacity enters once for each
earlier request; for a change of the rate it would add nothing that the next request does not. -/
theorem le_tokensBefore_add_iff (valid : c.validate = .ok ()) (close : Close steps)
    (h : j ≤ steps.length) {δ x : ℚ} (hδ : 0 ≤ δ) (hx : x ≤ c.burst) :
    x ≤ tokensBefore c steps j + δ ↔ FreeSince c steps j δ x := by
  -- The induction is on the number of steps, for all further gains and units at once, since a step
  -- changes both before its predecessors are asked.
  induction j generalizing δ x with
  | zero =>
    have full : tokensBefore c steps 0 = c.burst := rfl
    rw [full]
    exact ⟨fun _ i hi => absurd hi (Nat.not_lt_zero i),
      fun _ => hx.trans (le_add_of_nonneg_right hδ)⟩
  | succ j ih =>
    have here : steps[j]? = some steps[j] := List.getElem?_eq_getElem h
    have gain : 0 ≤ gained c steps (j + 1) - gained c steps j :=
      sub_nonneg.2 (gained_le_succ valid close here)
    -- What the step takes comes to the units, and its gain to the further gain.
    have unclamped : x ≤ tokensBefore c steps (j + 1) + δ ↔
        x + taken c steps j - δ ≤
            tokensBefore c steps j + (gained c steps (j + 1) - gained c steps j) ∧
          x + taken c steps j - δ ≤ c.burst := by
      rw [tokensBefore_succ valid close here, ← le_min_iff]
      constructor <;> intro bound <;> linarith
    -- Without a request nothing is taken, and the clamp is met by assumption.
    have clamp : x + taken c steps j - δ ≤ c.burst ↔
        (IsRequestAt steps j → x + taken c steps j - δ ≤ c.burst) := by
      refine ⟨fun bound _ => bound, fun bound => ?_⟩
      by_cases request : IsRequestAt steps j
      · exact bound request
      · rw [taken_eq_zero request, Nat.cast_zero]
        linarith
    rw [unclamped, freeSince_succ_iff, ← clamp]
    exact and_congr_left fun bound => ih (by omega) gain bound

/-- **Conformance.** A request passes exactly if, from every request on that is not later, the units
let through before it with its own are at most the capacity and what the rates in force have
brought since that request. -/
theorem passes_iff (valid : c.validate = .ok ()) (close : Close steps) {now : Instant} {n : ℕ}
    (here : steps[j]? = some (.allow now n)) :
    passes c steps j = true ↔
      ∀ i ≤ j, IsRequestAt steps i →
        (∑ k ∈ Finset.Ico i j, taken c steps k : ℕ) + (n : ℚ) ≤
          c.burst + (gained c steps (j + 1) - gained c steps (i + 1)) := by
  have within : j ≤ steps.length := (List.getElem?_eq_some_iff.1 here).1.le
  have gain : 0 ≤ gained c steps (j + 1) - gained c steps j :=
    sub_nonneg.2 (gained_le_succ valid close here)
  have request : IsRequestAt steps j := ⟨_, here, trivial⟩
  rw [passes_iff_le valid close here, le_min_iff]
  constructor
  · rintro ⟨free, fits⟩ i hi earlier
    -- From the request itself on, only its own units count, and they fit into the capacity.
    rcases hi.lt_or_eq with before | rfl
    · have since := (le_tokensBefore_add_iff valid close within gain fits).1 free i before earlier
      simp only [takenFrom] at since
      linarith
    · simpa using fits
  · intro every
    -- The case of the request itself is the clamp, and the others are the closed form.
    have fits : (n : ℚ) ≤ c.burst := by simpa using every j le_rfl request
    refine ⟨(le_tokensBefore_add_iff valid close within gain fits).2 fun i hi earlier => ?_, fits⟩
    have since := every i hi.le earlier
    simp only [takenFrom]
    linarith

end Runs

/-- A bucket is emptied, its rate is doubled a second later, and then the clock steps back. -/
def steppedBack : List Step :=
  [.allow ⟨0⟩ 2, .setRate ⟨1000000000⟩ 2 (by norm_num), .allow ⟨500000000⟩ 1,
    .allow ⟨1000000000⟩ 1]

/-- When the clock has stepped back, the token of the first second is there and conforms to every
request so far, and no token of the second rate is. -/
theorem conforms_steppedBack :
    Config.validate (⟨1, 2⟩ : Config ℚ) = .ok () ∧ Close steppedBack ∧
      (∀ i ≤ 2, IsRequestAt steppedBack i →
        (∑ k ∈ Finset.Ico i 2, taken ⟨1, 2⟩ steppedBack k : ℕ) + ((1 : ℕ) : ℚ) ≤
          (2 : ℕ) + (gained ⟨1, 2⟩ steppedBack 3 - gained ⟨1, 2⟩ steppedBack (i + 1))) ∧
      ¬∀ i ≤ 3, IsRequestAt steppedBack i →
        (∑ k ∈ Finset.Ico i 3, taken ⟨1, 2⟩ steppedBack k : ℕ) + ((1 : ℕ) : ℚ) ≤
          (2 : ℕ) + (gained ⟨1, 2⟩ steppedBack 4 - gained ⟨1, 2⟩ steppedBack (i + 1)) := by
  have valid : Config.validate (⟨1, 2⟩ : Config ℚ) = .ok () :=
    Config.validate_eq_ok_iff.2 ⟨Exact.checkRate_eq_ok_iff.2 one_pos, by decide⟩
  have close : Close steppedBack := by
    intro s hs t ht
    simp only [steppedBack, List.mem_cons, List.not_mem_nil, or_false] at hs ht
    rcases hs with rfl | rfl | rfl | rfl <;> rcases ht with rfl | rfl | rfl | rfl <;> decide
  have third : passes ⟨1, 2⟩ steppedBack 2 = true := by decide +kernel
  have fourth : ¬passes ⟨1, 2⟩ steppedBack 3 = true := by decide +kernel
  exact ⟨valid, close, (passes_iff valid close rfl).1 third,
    (passes_iff valid close rfl).not.1 fourth⟩

end TokenBucket

end Throttle
