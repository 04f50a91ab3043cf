import Mathlib.Algebra.BigOperators.Intervals
import Mathlib.Algebra.BigOperators.Ring.Finset
import Mathlib.Tactic.Linarith
import Throttle.Bucket.Leaky
import Throttle.Proofs.Arithmetic.Exact

/-!
# What a leaky bucket lets through

Every request moves the time from which a leaky bucket drains, also back. After a request that comes
late, a stretch of time that the bucket has drained lies ahead of it again, and the next requests
drain it once more. With exact numbers, the requests from one to another pour at most the volume and
what drains in the time between them, where the time that is drained again counts again. For
requests in the order of time nothing is drained again.

## Main definitions

* `LeakyBucket.after`, `LeakyBucket.poured`: a bucket after requests, and what one of them pours
* `LeakyBucket.mark`: the greatest time of the requests so far
* `LeakyBucket.again`: the time that a request drains although it has been drained before

## Main results

* `LeakyBucket.poured_le_allow_sub`: the level rises by no less than what is poured
* `LeakyBucket.level_sub_le_drain`: the level falls by no more than what drains
* `LeakyBucket.sum_poured_le_any_order`: what any stretch of a run pours
-/

namespace Throttle

namespace LeakyBucket

/-- A new bucket after a sequence of requests. -/
def after (c : Config ℚ) (calls : List (Instant × ℕ)) : LeakyBucket ℚ :=
  calls.foldl (fun b call => (b.allow call.1 call.2).1) (dry c)

/-- The units that the request numbered `k` pours into the bucket. -/
def poured (c : Config ℚ) (calls : List (Instant × ℕ)) (k : ℕ) : ℕ :=
  match calls[k]? with
  | some (now, n) => if ((after c (calls.take k)).allow now n).2 then n else 0
  | none => 0

/-! ## Times -/

/-- The time of the request numbered `k`, in nanoseconds. -/
def time (calls : List (Instant × ℕ)) (k : ℕ) : ℤ := (calls[k]?).elim 0 fun call => call.1.nanos

/-- The greatest time of the requests up to the one numbered `k`. -/
def mark (calls : List (Instant × ℕ)) : ℕ → ℤ
  | 0 => time calls 0
  | k + 1 => max (mark calls k) (time calls (k + 1))

/-- The nanoseconds that the request numbered `k` drains again: those from the time of the request
before it on that lie before the greatest time so far. -/
def again (calls : List (Instant × ℕ)) : ℕ → ℤ
  | 0 => 0
  | k + 1 => max 0 (min (time calls (k + 1)) (mark calls k) - time calls k)

theorem time_le_mark (calls : List (Instant × ℕ)) (k : ℕ) : time calls k ≤ mark calls k := by
  cases k with
  | zero => exact le_refl _
  | succ k => exact le_max_right _ _

/-- **The time that a request drains** is new, or it is drained again. -/
theorem time_sub_eq (calls : List (Instant × ℕ)) (k : ℕ) :
    max 0 (time calls (k + 1) - time calls k) =
      mark calls (k + 1) - mark calls k + again calls (k + 1) := by
  have behind := time_le_mark calls k
  rw [mark, again]
  omega

/-- Times in order are drained once. -/
theorem mark_eq_and_again_eq {calls : List (Instant × ℕ)}
    (ordered : calls.Pairwise fun a b => a.1 ≤ b.1) {k : ℕ} (within : k < calls.length) :
    mark calls k = time calls k ∧ again calls k = 0 := by
  induction k with
  | zero => exact ⟨rfl, rfl⟩
  | succ k ih =>
    have forward : time calls k ≤ time calls (k + 1) := by
      have order := List.pairwise_iff_getElem.1 ordered k (k + 1) (by omega) within (by omega)
      rw [time, time, List.getElem?_eq_getElem within, List.getElem?_eq_getElem (by omega)]
      exact order
    obtain ⟨marked, -⟩ := ih (by omega)
    rw [mark, again, marked]
    omega

/-! ## One request -/

/-- What is known of a bucket after requests, the last of them at `last`. -/
structure Holds (c : Config ℚ) (last : Option Instant) (b : LeakyBucket ℚ) : Prop where
  volume : b.volume = c.volume
  rate : b.rate = c.rate
  lastDrain : b.lastDrain = last
  nonneg : 0 ≤ b.level
  atMost : b.level ≤ c.volume

namespace Holds

variable {c : Config ℚ} {last : Option Instant} {b : LeakyBucket ℚ}

theorem start (c : Config ℚ) : Holds c none (dry c) where
  volume := rfl
  rate := rfl
  lastDrain := rfl
  nonneg := by simp [dry]
  atMost := by simp [dry]

/-- Draining takes nothing that is not there. -/
theorem drain (h : Holds c last b) (positive : 0 < c.rate) (now : Instant) :
    Holds c (some now) (b.drain now) := by
  unfold LeakyBucket.drain
  split
  · exact ⟨h.volume, h.rate, rfl, h.nonneg, h.atMost⟩
  · rename_i earlier _
    have leaks : 0 ≤ (elapsed earlier now : ℚ) * b.rate :=
      mul_nonneg (Exact.elapsed_nonneg earlier now) (h.rate ▸ positive.le)
    refine ⟨h.volume, h.rate, rfl, ?_, ?_⟩
    all_goals
      dsimp only
      rw [Exact.greater_eq_max, Nat.cast_zero]
    · exact le_max_right _ _
    · exact max_le (by linarith [h.atMost]) (Nat.cast_nonneg _)

/-- **The level falls** by no more than what drains in the time from the last request on. -/
theorem level_sub_le_drain {last : Instant} (h : Holds c (some last) b) (positive : 0 < c.rate)
    (now : Instant) :
    b.level - c.rate * ((max 0 (now.nanos - last.nanos) : ℤ) / 1000000000) ≤
      (b.drain now).level := by
  have forward : ((now.nanos - last.nanos).toNat : ℚ) =
      ((max 0 (now.nanos - last.nanos) : ℤ) : ℚ) := by
    rw [← Int.cast_natCast, Int.toNat_eq_max, max_comm]
  have counted := Exact.elapsed_le last now
  rw [forward] at counted
  have leaks := mul_le_mul_of_nonneg_left counted positive.le
  simp only [LeakyBucket.drain, h.lastDrain, Exact.greater_eq_max, h.rate]
  exact le_max_of_le_left (by linarith)

/-- A request leaves a level between nothing and the volume. -/
theorem allow (h : Holds c last b) (positive : 0 < c.rate) (now : Instant) (n : ℕ) :
    Holds c (some now) (b.allow now n).1 := by
  have drained := h.drain positive now
  unfold LeakyBucket.allow
  dsimp only
  split
  · refine ⟨drained.volume, drained.rate, drained.lastDrain, ?_, ?_⟩ <;>
      simp [drained.volume]
  · rename_i fits
    rw [Exact.below_iff, not_lt, drained.volume] at fits
    exact ⟨drained.volume, drained.rate, drained.lastDrain,
      add_nonneg drained.nonneg (Nat.cast_nonneg n), fits⟩

/-- **The level rises** by no less than what is poured: by just as much if the request passes, and
up to the brim if it does not. -/
theorem poured_le_allow_sub (h : Holds c last b) (positive : 0 < c.rate) (now : Instant) (n : ℕ) :
    ((if (b.allow now n).2 then n else 0 : ℕ) : ℚ) ≤
      (b.allow now n).1.level - (b.drain now).level := by
  have drained := h.drain positive now
  unfold LeakyBucket.allow
  dsimp only
  split
  · simp [drained.volume, drained.atMost]
  · simp

end Holds

/-! ## Runs -/

section Runs

variable {c : Config ℚ} {calls : List (Instant × ℕ)}

theorem after_concat (call : Instant × ℕ) :
    after c (calls ++ [call]) = ((after c calls).allow call.1 call.2).1 := by
  simp [after]

/-- The bucket after the request numbered `k`, and all before it. -/
theorem after_take_succ {k : ℕ} {call : Instant × ℕ} (here : calls[k]? = some call) :
    after c (calls.take (k + 1)) = ((after c (calls.take k)).allow call.1 call.2).1 := by
  rw [List.take_add_one, here, Option.toList_some, after_concat]

/-- A bucket knows the time of the last request. -/
theorem holds_after (positive : 0 < c.rate) (calls : List (Instant × ℕ)) :
    Holds c (calls.getLast?.map Prod.fst) (after c calls) := by
  induction calls using List.reverseRecOn with
  | nil => exact .start c
  | append_singleton calls call ih =>
    rw [after_concat, List.getLast?_concat]
    exact ih.allow positive call.1 call.2

/-- The level before the request numbered `k` pours, drained up to its time. -/
def drainedLevel (c : Config ℚ) (calls : List (Instant × ℕ)) (k : ℕ) : ℚ :=
  (calls[k]?).elim 0 fun call => ((after c (calls.take k)).drain call.1).level

/-- The level that the request numbered `k` leaves. -/
def levelAfter (c : Config ℚ) (calls : List (Instant × ℕ)) (k : ℕ) : ℚ :=
  (after c (calls.take (k + 1))).level

/-- What a request pours, the level rises by. -/
theorem poured_le_levelAfter_sub (positive : 0 < c.rate) {k : ℕ} (within : k < calls.length) :
    (poured c calls k : ℚ) ≤ levelAfter c calls k - drainedLevel c calls k := by
  have here := List.getElem?_eq_getElem within
  rw [poured, levelAfter, drainedLevel, after_take_succ here, here]
  exact (holds_after positive _).poured_le_allow_sub positive _ _

/-- Between two requests, the level falls by no more than what drains. -/
theorem levelAfter_sub_le_drainedLevel (positive : 0 < c.rate) {k : ℕ}
    (within : k + 1 < calls.length) :
    levelAfter c calls k -
        c.rate * ((mark calls (k + 1) - mark calls k + again calls (k + 1) : ℤ) / 1000000000) ≤
      drainedLevel c calls (k + 1) := by
  have here := List.getElem?_eq_getElem within
  have before : calls[k]? = some calls[k] := List.getElem?_eq_getElem (by omega)
  have last : (calls.take (k + 1)).getLast?.map Prod.fst = some calls[k].1 := by
    rw [List.take_add_one, before, Option.toList_some, List.getLast?_concat, Option.map_some]
  have holds := holds_after positive (calls.take (k + 1))
  rw [last] at holds
  rw [← time_sub_eq, levelAfter, drainedLevel, time, time, here, before]
  exact holds.level_sub_le_drain positive _

/-- **Requests from one to another** raise the level by what they pour, less what drains. -/
theorem sum_poured_le_levelAfter (positive : 0 < c.rate) {i j : ℕ} (order : i ≤ j)
    (within : j < calls.length) :
    ∑ k ∈ Finset.Icc i j, (poured c calls k : ℚ) ≤
      levelAfter c calls j - drainedLevel c calls i + c.rate *
        ((mark calls j - mark calls i + ∑ k ∈ Finset.Ioc i j, again calls k : ℤ) / 1000000000) := by
  induction j, order using Nat.le_induction with
  | base =>
    have alone := poured_le_levelAfter_sub positive within
    simpa using alone
  | succ j order ih =>
    have before := ih (by omega)
    have last := poured_le_levelAfter_sub positive within
    have drains := levelAfter_sub_le_drainedLevel positive within
    rw [Finset.sum_Icc_succ_top (by omega), Finset.sum_Ioc_succ_top order]
    push_cast at before drains ⊢
    linarith

/-- **What a leaky bucket lets through.** Of requests at times in any order, those from one to
another, both included, pour at most the volume and what drains in the time by which the greatest
time moves on between the two and in the time that is drained again. If the times are in order, none
is. -/
theorem sum_poured_le_any_order (valid : c.validate = .ok ()) (calls : List (Instant × ℕ)) :
    (∀ i j, i ≤ j → j < calls.length →
      ∑ k ∈ Finset.Icc i j, (poured c calls k : ℚ) ≤ c.volume + c.rate *
        ((mark calls j - mark calls i + ∑ k ∈ Finset.Ioc i j, again calls k : ℤ) / 1000000000)) ∧
    ((calls.Pairwise fun a b => a.1 ≤ b.1) → ∀ i j, i ≤ j → j < calls.length →
      ∑ k ∈ Finset.Icc i j, (poured c calls k : ℚ) ≤
        c.volume + c.rate * ((mark calls j - mark calls i : ℤ) / 1000000000)) := by
  have positive : 0 < c.rate := Exact.checkRate_eq_ok_iff.1 (Config.validate_eq_ok_iff.1 valid).1
  have bound : ∀ i j, i ≤ j → j < calls.length →
      ∑ k ∈ Finset.Icc i j, (poured c calls k : ℚ) ≤ c.volume + c.rate *
        ((mark calls j - mark calls i + ∑ k ∈ Finset.Ioc i j, again calls k : ℤ) /
          1000000000) := by
    intro i j order within
    have risen := sum_poured_le_levelAfter positive order within
    have atMost : levelAfter c calls j ≤ c.volume := (holds_after positive _).atMost
    have nonneg : 0 ≤ drainedLevel c calls i := by
      rw [drainedLevel, List.getElem?_eq_getElem (order.trans_lt within)]
      exact ((holds_after positive _).drain positive _).nonneg
    linarith
  refine ⟨bound, fun ordered i j order within => ?_⟩
  have once : ∑ k ∈ Finset.Ioc i j, again calls k = 0 := Finset.sum_eq_zero fun k member =>
    (mark_eq_and_again_eq ordered ((Finset.mem_Ioc.1 member).2.trans_lt within)).2
  simpa [once] using bound i j order within

/-- A bucket of ten units that drains one a second is filled, and a late request rejected. Then a
request at the first time fills it once more: the ten seconds between them are drained again. -/
theorem poured_after_late_request :
    poured ⟨1, 10⟩ [(⟨10000000000⟩, 10), (⟨0⟩, 1), (⟨10000000000⟩, 10)] 2 = 10 ∧
      again [(⟨10000000000⟩, 10), (⟨0⟩, 1), (⟨10000000000⟩, 10)] 2 = 10000000000 ∧
      ∑ k ∈ Finset.Icc 0 2,
        (poured ⟨1, 10⟩ [(⟨10000000000⟩, 10), (⟨0⟩, 1), (⟨10000000000⟩, 10)] k : ℚ) ≤ 20 := by
  refine ⟨by decide +kernel, by decide, ?_⟩
  have bound := (@sum_poured_le_any_order ⟨1, 10⟩ (by decide +kernel)
    [(⟨10000000000⟩, 10), (⟨0⟩, 1), (⟨10000000000⟩, 10)]).1 0 2 (by decide) (by decide)
  have repeats : mark [(⟨10000000000⟩, 10), (⟨0⟩, 1), (⟨10000000000⟩, 10)] 2 -
      mark [(⟨10000000000⟩, 10), (⟨0⟩, 1), (⟨10000000000⟩, 10)] 0 +
        ∑ k ∈ Finset.Ioc 0 2, again [(⟨10000000000⟩, 10), (⟨0⟩, 1), (⟨10000000000⟩, 10)] k =
      10000000000 := by decide
  rw [repeats] at bound
  norm_num at bound ⊢
  exact bound

/-- So twenty units pass, although the greatest time has not moved on. -/
theorem lt_sum_poured_late :
    ¬∑ k ∈ Finset.Icc 0 2,
        (poured ⟨1, 10⟩ [(⟨10000000000⟩, 10), (⟨0⟩, 1), (⟨10000000000⟩, 10)] k : ℚ) ≤
      10 + 1 * ((mark [(⟨10000000000⟩, 10), (⟨0⟩, 1), (⟨10000000000⟩, 10)] 2 -
        mark [(⟨10000000000⟩, 10), (⟨0⟩, 1), (⟨10000000000⟩, 10)] 0 : ℤ) / 1000000000) := by
  have twice : ∑ k ∈ Finset.Icc 0 2,
      poured ⟨1, 10⟩ [(⟨10000000000⟩, 10), (⟨0⟩, 1), (⟨10000000000⟩, 10)] k = 20 := by
    decide +kernel
  have still : mark [(⟨10000000000⟩, 10), (⟨0⟩, 1), (⟨10000000000⟩, 10)] 2 -
      mark [(⟨10000000000⟩, 10), (⟨0⟩, 1), (⟨10000000000⟩, 10)] 0 = 0 := by decide
  rw [← Nat.cast_sum, twice, still]
  norm_num

end Runs

end LeakyBucket

end Throttle
