import Mathlib.Algebra.BigOperators.Intervals
import Throttle.Limiter
import Throttle.Proofs.Shared.Bucket

/-!
# The burst of a shared leaky bucket

Between any two requests a shared leaky bucket lets through at most its volume, what drains in the
seconds between them, and what could have drained while the bucket stood empty before the first of
them. A bucket that was not empty, or whose key is new, has no such time to spend.

The level is the potential of the argument: a request pours no more units than the level rises, and
the level falls by no more than what drains. A key that expires takes nothing with it, since its
bucket has run dry by then.

## Main definitions

* `SharedLeakyBucket.poured`: the units that a request of a run pours into the bucket
* `SharedLeakyBucket.finds`, `SharedLeakyBucket.idle`: the level that a request of a run finds, and
  the units that could have drained before it

## Main results

* `SharedLeakyBucket.Flows.take`: what a request adds to a run
* `SharedLeakyBucket.sum_poured_le`: the burst between two requests of a run
-/

namespace Throttle

namespace SharedLeakyBucket

/-- Requests on a key of some units at some times. -/
def takes (key : String) (calls : List (Instant × ℕ)) : List (Context Store × Call ℚ) :=
  calls.map fun call => (Store.context ℚ call.1, .take key call.2)

/-- The outcomes of requests that are decided. -/
def outcomes (decisions : List Bool) : List Limiter.Outcome :=
  decisions.map fun passed => .ok (some passed)

/-- The units that the request numbered `k` pours into the bucket. -/
def poured (calls : List (Instant × ℕ)) (decisions : List Bool) (k : ℕ) : ℕ :=
  match calls[k]?, decisions[k]? with
  | some call, some true => call.2
  | _, _ => 0

/-- The unix second of the request numbered `k`. -/
def second (calls : List (Instant × ℕ)) (k : ℕ) : ℤ :=
  (calls[k]?).elim 0 fun call => call.1.seconds

section Before

variable (l : SharedLeakyBucket ℚ) (store : Store) (key : String)

/-- The store before the request numbered `k`. -/
def before (calls : List (Instant × ℕ)) (k : ℕ) : Store :=
  match Limiter.run (.sharedLeakyBucket l, store) (takes key (calls.take k)) with
  | .ok ((_, store), _) => store
  | .error _ => store

/-- The level that the request numbered `k` finds. -/
def finds (rate : ℚ) (calls : List (Instant × ℕ)) (k : ℕ) : ℚ :=
  (calls[k]?).elim 0 fun call => found rate (before l store key calls k) key call.1

/-- The units that could have drained while the bucket stood empty before the request numbered
`k`. -/
def idle (rate : ℚ) (calls : List (Instant × ℕ)) (k : ℕ) : ℚ :=
  max (-finds l store key rate calls k) 0

end Before

/-! ## One more request -/

section Append

variable {calls : List (Instant × ℕ)} {decisions : List Bool} {call : Instant × ℕ} {k : ℕ}

theorem poured_append_left (size : decisions.length = calls.length) (passed : Bool)
    (h : k < calls.length) :
    poured (calls ++ [call]) (decisions ++ [passed]) k = poured calls decisions k := by
  rw [poured, List.getElem?_append_left h, List.getElem?_append_left (by omega), poured]

theorem poured_append_right (size : decisions.length = calls.length) (passed : Bool) :
    poured (calls ++ [call]) (decisions ++ [passed]) calls.length =
      if passed then call.2 else 0 := by
  rw [poured, List.getElem?_concat_length, ← size, List.getElem?_concat_length]
  cases passed <;> rfl

theorem second_append_left (h : k < calls.length) :
    second (calls ++ [call]) k = second calls k := by
  rw [second, List.getElem?_append_left h, second]

theorem second_append_right : second (calls ++ [call]) calls.length = call.1.seconds := by
  rw [second, List.getElem?_concat_length, Option.elim_some]

variable {l : SharedLeakyBucket ℚ} {store : Store} {key : String} {rate : ℚ}

theorem finds_append_left (h : k < calls.length) :
    finds l store key rate (calls ++ [call]) k = finds l store key rate calls k := by
  rw [finds, List.getElem?_append_left h, before, List.take_append_of_le_length h.le, finds, before]

theorem finds_append_right {l' : SharedLeakyBucket ℚ} {store' : Store}
    {results : List Limiter.Outcome}
    (ran : Limiter.run (.sharedLeakyBucket l, store) (takes key calls) =
      .ok ((.sharedLeakyBucket l', store'), results)) :
    finds l store key rate (calls ++ [call]) calls.length = found rate store' key call.1 := by
  rw [finds, List.getElem?_concat_length, Option.elim_some, before, List.take_left, ran]

end Append

/-- Requests on a key go through, and leave a bucket whose level has risen by no less than what was
poured, less what has drained. -/
structure Flows (c : LeakyBucket.Config ℚ) (l : SharedLeakyBucket ℚ) (store : Store) (key : String)
    (calls : List (Instant × ℕ)) (decisions : List Bool) (l' : SharedLeakyBucket ℚ)
    (store' : Store) : Prop where
  ran : Limiter.run (.sharedLeakyBucket l, store) (takes key calls) =
    .ok ((.sharedLeakyBucket l', store'), outcomes decisions)
  size : decisions.length = calls.length
  params : l'.keyed.state key = c
  ready : ∀ now, (∀ call ∈ calls, call.1 ≤ now) → Ready c store' key now
  rise : ∀ now, (∀ call ∈ calls, call.1 ≤ now) → ∀ i < calls.length,
    ∑ k ∈ Finset.Ico i calls.length, (poured calls decisions k : ℚ) ≤
      found c.rate store' key now - finds l store key c.rate calls i +
        c.rate * (now.seconds - second calls i)
  burst : ∀ i j, i ≤ j → j < calls.length →
    ∑ k ∈ Finset.Icc i j, (poured calls decisions k : ℚ) ≤
      c.volume + c.rate * (second calls j - second calls i) - finds l store key c.rate calls i

namespace Flows

variable {c : LeakyBucket.Config ℚ} {l l' : SharedLeakyBucket ℚ} {store store' : Store}
  {key : String} {calls : List (Instant × ℕ)} {decisions : List Bool}

theorem start (params : l.keyed.state key = c) (available : store.available = true)
    (absent : store.slots.get? key = none) : Flows c l store key [] [] l store where
  ran := rfl
  size := rfl
  params := params
  ready _ _ := ready_of_absent available absent
  rise _ _ i h := absurd h (Nat.not_lt_zero i)
  burst _ j _ h := absurd h (Nat.not_lt_zero j)

/-- **One more request** goes through if it is not older than the others. -/
theorem take (f : Flows c l store key calls decisions l' store') (positive : 0 < c.rate)
    (call : Instant × ℕ) (latest : ∀ earlier ∈ calls, earlier.1 ≤ call.1) :
    ∃ l'' store'', Flows c l store key (calls ++ [call])
        (decisions ++ [fits c.volume (found c.rate store' key call.1) call.2]) l'' store'' ∧
      Rests c store'' key (levelAfter c.volume (found c.rate store' key call.1) call.2) call.1 := by
  obtain ⟨now, n⟩ := call
  have ready := f.ready now latest
  obtain ⟨store'', allowed, rests⟩ := allow_ready f.params ready n
  set passed := fits c.volume (found c.rate store' key now) n with decided
  have last : ∀ k < calls.length, (poured (calls ++ [(now, n)]) (decisions ++ [passed]) k : ℚ) =
      poured calls decisions k := fun k h => by rw [poured_append_left f.size passed h]
  -- What the request itself adds is bounded by the rise of the level.
  have adds : (poured (calls ++ [(now, n)]) (decisions ++ [passed]) calls.length : ℚ) ≤
      levelAfter c.volume (found c.rate store' key now) n - found c.rate store' key now := by
    rw [poured_append_right f.size]
    exact poured_le_levelAfter_sub ready.atMost
  -- The requests from `i` up to this one raise the level by what they pour, less what has drained.
  have size : (calls ++ [(now, n)]).length = calls.length + 1 := by simp
  have reached : ∀ i ≤ calls.length,
      ∑ k ∈ Finset.Ico i (calls.length + 1),
        (poured (calls ++ [(now, n)]) (decisions ++ [passed]) k : ℚ) ≤
      levelAfter c.volume (found c.rate store' key now) n -
        finds l store key c.rate (calls ++ [(now, n)]) i +
          c.rate * (now.seconds - second (calls ++ [(now, n)]) i) := by
    intro i within
    rw [Finset.sum_Ico_succ_top within]
    rcases within.lt_or_eq with earlier | rfl
    · have rise := f.rise now latest i earlier
      rw [← Finset.sum_congr rfl fun k member => last k (Finset.mem_Ico.1 member).2] at rise
      rw [finds_append_left earlier, second_append_left earlier]
      linarith
    · rw [Finset.Ico_self, Finset.sum_empty, finds_append_right f.ran, second_append_right]
      linarith
  have later {t : Instant} (h : ∀ earlier ∈ calls ++ [(now, n)], earlier.1 ≤ t) : now ≤ t :=
    h (now, n) (by simp)
  refine ⟨{ l' with keyed := (l'.keyed.obtain key).1 }, store'', ⟨?_, ?_, ?_, ?_, ?_, ?_⟩, rests⟩
  · rw [takes, List.map_append, ← takes, List.map_singleton, Limiter.run_append_singleton, f.ran]
    simp only [Except.bind, Limiter.step, Limiter.take?, allowed, Except.map, Option.map_some,
      Option.getD_some, Limiter.answered, outcomes, List.map_append, List.map_singleton]
  · rw [List.length_append, List.length_append, f.size, List.length_singleton,
      List.length_singleton]
  · rw [Keyed.state_obtain, f.params]
  · exact fun t h => (rests.ready positive (later h)).1
  · intro t h i within
    rw [size] at within ⊢
    have reached := reached i (Nat.lt_succ_iff.1 within)
    have found := (rests.ready positive (later h)).2
    linarith
  · intro i j order within
    rw [size] at within
    rcases (Nat.lt_succ_iff.1 within).lt_or_eq with earlier | rfl
    · rw [Finset.sum_congr rfl fun k member =>
          last k ((Finset.mem_Icc.1 member).2.trans_lt earlier),
        second_append_left earlier, second_append_left (order.trans_lt earlier),
        finds_append_left (order.trans_lt earlier)]
      exact f.burst i j order earlier
    · rw [← Finset.Ico_add_one_right_eq_Icc, second_append_right]
      have reached := reached i order
      have atMost := rests.atMost
      linarith

end Flows

/-- Requests in the order of time go through. -/
theorem exists_flows {c : LeakyBucket.Config ℚ} {timeout : Option Span} {l : SharedLeakyBucket ℚ}
    (created : create? c timeout = .ok l) {store : Store} (available : store.available = true)
    {key : String} (absent : store.slots.get? key = none) {calls : List (Instant × ℕ)}
    (ordered : calls.Pairwise fun a b => a.1 ≤ b.1) :
    ∃ decisions l' store', Flows c l store key calls decisions l' store' := by
  obtain ⟨keyed, made, rfl⟩ := exists_of_map_eq_ok created
  have valid := (Keyed.valid_of_create? made).1
  have positive : 0 < c.rate :=
    Exact.checkRate_eq_ok_iff.1 (LeakyBucket.Config.validate_eq_ok_iff.1 valid).1
  induction calls using List.reverseRecOn with
  | nil => exact ⟨[], _, _, .start (Keyed.state_of_create? made key) available absent⟩
  | append_singleton calls call ih =>
    obtain ⟨before, -, latest⟩ := List.pairwise_append.1 ordered
    obtain ⟨decisions, l', store', flows⟩ := ih before
    obtain ⟨l'', store'', flows, -⟩ := flows.take positive call fun earlier member =>
      latest earlier member call (List.mem_singleton_self _)
    exact ⟨_, l'', store'', flows⟩

/-- **The burst of a shared leaky bucket.** Requests in the order of time on a new key are all
answered. Those from one request to another, both included, pour at most the volume, what drains in
the seconds between the two, and what could have drained while the bucket stood empty before the
first. A single request for more than the volume and this is rejected. -/
theorem sum_poured_le {c : LeakyBucket.Config ℚ} {timeout : Option Span} {l : SharedLeakyBucket ℚ}
    (created : create? c timeout = .ok l) {store : Store} (available : store.available = true)
    {key : String} (absent : store.slots.get? key = none) {calls : List (Instant × ℕ)}
    (ordered : calls.Pairwise fun a b => a.1 ≤ b.1) :
    ∃ last decisions, Limiter.run (.sharedLeakyBucket l, store) (takes key calls) =
        .ok (last, outcomes decisions) ∧ decisions.length = calls.length ∧
      (∀ i j, i ≤ j → j < calls.length →
        ∑ k ∈ Finset.Icc i j, (poured calls decisions k : ℚ) ≤
          c.volume + c.rate * (second calls j - second calls i) +
            idle l store key c.rate calls i) ∧
      ∀ k call, calls[k]? = some call →
        c.volume + idle l store key c.rate calls k < call.2 → decisions[k]? = some false := by
  obtain ⟨decisions, l', store', flows⟩ := exists_flows created available absent ordered
  have burst : ∀ i j, i ≤ j → j < calls.length →
      ∑ k ∈ Finset.Icc i j, (poured calls decisions k : ℚ) ≤
        c.volume + c.rate * (second calls j - second calls i) +
          idle l store key c.rate calls i := by
    intro i j order within
    have burst := flows.burst i j order within
    have idles : -finds l store key c.rate calls i ≤ idle l store key c.rate calls i :=
      le_max_left _ _
    linarith
  refine ⟨_, decisions, flows.ran, flows.size, burst, fun k call here heavy => ?_⟩
  obtain ⟨within, -⟩ := List.getElem?_eq_some_iff.1 here
  have alone := burst k k le_rfl within
  rw [Finset.Icc_self, Finset.sum_singleton, sub_self, mul_zero, add_zero] at alone
  obtain ⟨passed, decided⟩ : ∃ passed, decisions[k]? = some passed :=
    ⟨_, List.getElem?_eq_getElem (flows.size.symm ▸ within)⟩
  cases passed with
  | false => exact decided
  | true =>
    rw [poured, here, decided] at alone
    exact absurd alone (not_le.2 heavy)

/-- The second of two requests within a minute finds what the first has left, less what has
drained. -/
theorem flows_pair {c : LeakyBucket.Config ℚ} (positive : 0 < c.rate) {l : SharedLeakyBucket ℚ}
    {key : String} (params : l.keyed.state key = c) (now later : Instant) (order : now ≤ later)
    (soon : later.nanos < now.nanos + 60 * 1000000000) (m n : ℕ) :
    ∃ l' store' finds₁, Flows c l ∅ key [(now, m), (later, n)]
        [fits c.volume 0 m, fits c.volume finds₁ n] l' store' ∧
      finds l ∅ key c.rate [(now, m), (later, n)] 1 = finds₁ ∧
      finds₁ = levelAfter c.volume 0 m - c.rate * (later.seconds - now.seconds) := by
  have start : Flows c l ∅ key [] [] l ∅ := .start params rfl rfl
  obtain ⟨l₁, store₁, first, rests⟩ := start.take positive (now, m)
    fun _ member => absurd member List.not_mem_nil
  have fresh : found c.rate (∅ : Store) key now = 0 := found_of_absent c.rate rfl
  rw [fresh] at first rests
  obtain ⟨l₂, store₂, second, -⟩ := first.take positive (later, n)
    fun earlier member => by rw [List.mem_singleton.1 member]; exact order
  exact ⟨l₂, store₂, _, second, finds_append_right first.ran, rests.found_eq soon⟩

/-- A bucket of ten units that drains one a second takes one unit, and then stands empty for 29
seconds. A request for 40 units is rejected. -/
theorem rejected_after_idle_time :
    ∃ l last decisions, create? (⟨1, 10⟩ : LeakyBucket.Config ℚ) none = .ok l ∧
      Limiter.run (.sharedLeakyBucket l, ∅)
        (takes "key" [(.ofParts 1700000000 0, 1), (.ofParts 1700000030 0, 40)]) =
          .ok (last, outcomes decisions) ∧
      idle l ∅ "key" 1 [(.ofParts 1700000000 0, 1), (.ofParts 1700000030 0, 40)] 1 = 29 ∧
      decisions[1]? = some false := by
  obtain ⟨l, created, params⟩ : ∃ l, create? (⟨1, 10⟩ : LeakyBucket.Config ℚ) none = .ok l ∧
      l.keyed.state "key" = ⟨1, 10⟩ := ⟨_, rfl, rfl⟩
  obtain ⟨-, -, finds₁, -, finds, drained⟩ := @flows_pair ⟨1, 10⟩ one_pos l "key" params
    (.ofParts 1700000000 0) (.ofParts 1700000030 0) (by decide) (by decide) 1 40
  have first : levelAfter 10 0 1 = 1 := by norm_num [levelAfter, fits]
  have idles : idle l ∅ "key" 1 [(.ofParts 1700000000 0, 1), (.ofParts 1700000030 0, 40)] 1 =
      29 := by
    rw [idle, finds, drained, first]
    norm_num [Instant.seconds, Instant.ofParts]
  obtain ⟨last, decisions, ran, -, -, heavy⟩ := @sum_poured_le _ _ _ created ∅ rfl "key" rfl
    [(.ofParts 1700000000 0, 1), (.ofParts 1700000030 0, 40)] (by decide)
  exact ⟨l, last, decisions, created, ran, idles, heavy 1 _ rfl (by rw [idles]; norm_num)⟩

/-- The same bucket lets a request for 39 units through after as much time, which is more than its
volume. -/
theorem poured_after_idle_time :
    ∃ l last decisions, create? (⟨1, 10⟩ : LeakyBucket.Config ℚ) none = .ok l ∧
      Limiter.run (.sharedLeakyBucket l, ∅)
        (takes "key" [(.ofParts 1700000000 0, 1), (.ofParts 1700000030 0, 39)]) =
          .ok (last, outcomes decisions) ∧
      ¬∑ k ∈ Finset.Icc 1 1,
          (poured [(.ofParts 1700000000 0, 1), (.ofParts 1700000030 0, 39)] decisions k : ℚ) ≤
        10 + 1 * (second [(.ofParts 1700000000 0, 1), (.ofParts 1700000030 0, 39)] 1 -
          second [(.ofParts 1700000000 0, 1), (.ofParts 1700000030 0, 39)] 1) := by
  obtain ⟨l, created, params⟩ : ∃ l, create? (⟨1, 10⟩ : LeakyBucket.Config ℚ) none = .ok l ∧
      l.keyed.state "key" = ⟨1, 10⟩ := ⟨_, rfl, rfl⟩
  obtain ⟨l', store', finds₁, flows, -, drained⟩ := @flows_pair ⟨1, 10⟩ one_pos l "key" params
    (.ofParts 1700000000 0) (.ofParts 1700000030 0) (by decide) (by decide) 1 39
  have first : levelAfter 10 0 1 = 1 := by norm_num [levelAfter, fits]
  have last : finds₁ = -29 := by
    rw [drained, first]
    norm_num [Instant.seconds, Instant.ofParts]
  have fit : fits 10 finds₁ 39 = true := by norm_num [fits, last]
  refine ⟨l, _, _, created, flows.ran, ?_⟩
  rw [Finset.Icc_self, Finset.sum_singleton]
  norm_num [poured, fit]

end SharedLeakyBucket

end Throttle
