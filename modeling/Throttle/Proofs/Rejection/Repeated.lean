import Throttle.Proofs.Arithmetic.Exact
import Throttle.Proofs.Decimal.Rational
import Throttle.Proofs.Shared.Admission
import Throttle.Proofs.Shared.Bucket
import Throttle.Proofs.Store.Commands

/-!
# Requests that are rejected again

A rejected request is rejected again at the same time, and it leaves behind what it finds: the first
one may have refilled or drained a bucket or dropped what a window does not reach, and a second one
has nothing left to do. A token bucket still serves smaller requests, which take its tokens; the
other algorithms reject every request, whatever its weight.

The same holds of the scripts in a store, where a rejected request also renews the lifetime of its
key.

## Main definitions

* `TokenBucket.Short`: a bucket lacks tokens and gains none at an instant
* `Store.Settled`: a store as a rejected request leaves it

## Main results

* `TokenBucket.Short.allow`: a bucket that lacks tokens for a request goes on lacking them
* `LeakyBucket.rejected_again`, `SlidingWindow.eq_of_rejected`, `SlidingLog.rejected_again`: a
  rejected request is rejected again
* `Store.pour_again`, `Store.eval_slidingWindow_again`, `Store.eval_slidingLog_again`: so it is by
  the scripts
-/

namespace Throttle

/-! ## Token buckets -/

namespace TokenBucket

variable {b b' : TokenBucket ℚ} {now : Instant} {n : ℕ}

/-- A bucket lacks the tokens for a request of `n` units, and it gains none at `now`. -/
structure Short (b : TokenBucket ℚ) (now : Instant) (n : ℕ) : Prop where
  current : ∃ last, b.lastRefill = some last ∧ now ≤ last
  tokens_lt : b.tokens < n

/-- A refilled bucket has been refilled at this time or at a later one. -/
theorem current_refill (b : TokenBucket ℚ) (now : Instant) :
    ∃ last, (b.refill now).lastRefill = some last ∧ now ≤ last := by
  unfold refill
  split
  · exact ⟨now, rfl, Int.le_refl _⟩
  · rename_i last known
    split
    · rename_i old
      exact ⟨last, known, old⟩
    · exact ⟨now, rfl, Int.le_refl _⟩

/-- A request is rejected for lack of tokens. -/
theorem short_of_rejected (rejected : b.allow now n = (b', false)) : b'.Short now n := by
  unfold allow at rejected
  dsimp only at rejected
  split at rejected
  · cases rejected
  · rename_i lacking
    cases rejected
    exact ⟨current_refill b now, lt_of_not_ge lacking⟩

/-- **A bucket that lacks tokens for a request goes on lacking them.** What it rejects leaves it as
it is, and what it accepts is a smaller request. -/
theorem Short.allow (s : b.Short now n) (m : ℕ) :
    b.allow now m = (b, false) ∨ m < n ∧ ∃ b', b.allow now m = (b', true) ∧ b'.Short now n := by
  obtain ⟨last, known, old⟩ := s.current
  unfold TokenBucket.allow
  dsimp only
  rw [refill_of_le known old]
  split
  · rename_i enough
    have fewer : (m : ℚ) < n := enough.trans_lt s.tokens_lt
    refine .inr ⟨by exact_mod_cast fewer, _, rfl, ⟨last, known, old⟩, ?_⟩
    exact (sub_le_self b.tokens (Nat.cast_nonneg m)).trans_lt s.tokens_lt
  · exact .inl rfl

end TokenBucket

/-! ## Leaky buckets -/

/-- **A rejected request leaves a full bucket**, which rejects every other one at the same time. -/
theorem LeakyBucket.rejected_again {b b' : LeakyBucket ℚ} {now : Instant} {n m : ℕ}
    (rejected : b.allow now n = (b', false)) (positive : 1 ≤ m) :
    b'.allow now m = (b', false) := by
  have time := lastDrain_allow b now n
  rw [rejected] at time
  have full : b'.level = b'.volume := by
    unfold allow at rejected
    dsimp only at rejected
    split at rejected
    · cases rejected
      rfl
    · cases rejected
  -- Nothing drains between two requests at the same time.
  have still : b'.drain now = b' := by
    obtain ⟨volume, rate, level, lastDrain⟩ := b'
    dsimp only at time full
    subst time full
    have none : (elapsed now now : ℚ) = 0 := by
      rw [Exact.elapsed_eq (Int.le_refl _) (by omega), sub_self, Int.cast_zero, zero_div]
    simp only [drain, none, zero_mul, sub_zero, Exact.greater_eq_max, Nat.cast_zero]
    rw [max_eq_left (Nat.cast_nonneg volume)]
  have more : (b'.volume : ℚ) < b'.level + m := by
    have unit : (1 : ℚ) ≤ m := by exact_mod_cast positive
    rw [full]
    linarith
  unfold allow
  dsimp only
  rw [still, if_pos (Exact.below_iff.2 more), ← full]

/-! ## Sliding windows and logs -/

/-- **A rejected request leaves the window as it is.** -/
theorem SlidingWindow.eq_of_rejected {w w' : SlidingWindow} {now : Instant}
    (rejected : w.allow now = (w', false)) : w' = w := by
  unfold allow at rejected
  split at rejected
  · cases rejected
  · split at rejected
    · cases rejected
    · split at rejected <;> cases rejected
      rfl

namespace SlidingLog

variable {l l' : SlidingLog} {now : Instant} {n m : ℕ} {o o' : AllowOptions}

/-- What is forgotten stays forgotten. -/
theorem forget_forget (l : SlidingLog) (left : Instant) :
    (l.forget left).forget left = l.forget left := by
  simp only [forget, List.filter_filter, Bool.and_self]

/-- A request is rejected if enough units are between its boundaries, and if these and the number of
the units are in order. -/
theorem allow_eq_rejected_iff : l.allow now n o = .ok (l', .ok false) ↔
    ∃ left right, l.bounds now o = .ok (.ok (left, right)) ∧
      ¬(right < left ∧ l.isEmpty = false) ∧ (l.forget left).count left right < 2 ^ 64 ∧
      l.limit ≤ (l.forget left).count left right ∧ l' = l.forget left := by
  unfold allow
  cases resolved : l.bounds now o with
  | error fault => simp
  | ok bounds =>
    cases bounds with
    | error e => simp
    | ok bounds =>
      obtain ⟨left, right⟩ := bounds
      dsimp only
      split
      · grind
      · split
        · grind
        · split
          · grind
          · split <;> grind

/-- **A rejected request in the trailing window is rejected again**, whatever its weight. -/
theorem rejected_again (trailing : o.fixedWindow = false) (trailing' : o'.fixedWindow = false)
    (rejected : l.allow now n o = .ok (l', .ok false)) :
    l'.allow now m o' = .ok (l', .ok false) := by
  obtain ⟨left, right, resolved, ordered, small, full, rfl⟩ := allow_eq_rejected_iff.1 rejected
  have bounds : (l.forget left).bounds now o' = l.bounds now o :=
    AllowOptions.windowBounds_of_trailing trailing trailing' ..
  have kept : (l.forget left).isEmpty = false → l.isEmpty = false := by
    simp only [isEmpty, forget, List.isEmpty_eq_false_iff]
    rintro some none
    exact some (by rw [none, List.filter_nil])
  refine allow_eq_rejected_iff.2 ⟨left, right, bounds.trans resolved,
    fun reversed => ordered ⟨reversed.1, kept reversed.2⟩, ?_, ?_, (forget_forget l left).symm⟩
  · rwa [forget_forget]
  · rwa [forget_forget]

end SlidingLog

/-! ## Scripts in a store -/

/-- A filter that every value passes leaves the table as it is. -/
theorem Table.filter_eq_self {V : Type} {t : Table V} {p : String → V → Bool}
    (all : ∀ name v, t.get? name = some v → p name v = true) : t.filter p = t := by
  obtain ⟨entries, distinct⟩ := t
  refine congrArg (fun entries => entries) ?_
  have same : entries.filter (fun e => p e.1 e.2) = entries :=
    List.filter_eq_self.2 fun e member => all e.1 e.2 (Table.mem_entries_iff.1 member)
  simp only [filter, same]

/-- The low scores are removed once. -/
theorem SortedSet.Coherent.removeBelow_removeBelow {s : SortedSet} (coherent : s.Coherent)
    (bound : Int) : (s.removeBelow bound).removeBelow bound = s.removeBelow bound := by
  have none : ((s.removeBelow bound).ranked.toList.filter fun e => decide (e.1 < bound)) = [] := by
    rw [coherent.toList_removeBelow, List.filter_filter, List.filter_eq_nil_iff]
    intro e _
    simp only [Bool.and_eq_true, decide_eq_true_eq]
    omega
  rw [SortedSet.removeBelow, none, List.foldl_nil]

namespace Store

variable {store store' : Store} {slots slots' : Table Slot} {key : String} {now : Instant}
  {lifetime : Span}

theorem isLive_of_get?_live {slot : Slot} (found : (store.live now).get? key = some slot) :
    slot.isLive now = true := by
  rw [get?_live] at found
  exact (Option.filter_eq_some_iff.1 found).2

/-- Live slots with one more of them are live. -/
theorem live_insert {slot : Slot} (live : slot.isLive now = true) :
    Store.live ⟨(store.live now).insert key slot, true⟩ now = (store.live now).insert key slot := by
  refine Table.filter_eq_self fun other found here => ?_
  rw [Table.get?_insert] at here
  split at here
  · cases here
    exact live
  · exact isLive_of_get?_live here

/-- What a script answers is what it has been executed to. -/
theorem exists_of_eval_eq_ok {α : Type} [Arithmetic α] {script : Script} {args : List String}
    {reply : Int} (ran : store.eval α now script [key] args = (store', .ok reply)) :
    store.available = true ∧ ∃ slots,
      execute α now script key args (store.live now) = .ok (slots, reply) ∧
        store' = ⟨slots, true⟩ := by
  unfold eval at ran
  split at ran
  · rename_i available
    dsimp only at ran
    cases executed : execute α now script key args (store.live now) with
    | error e =>
      rw [executed] at ran
      cases ran
    | ok result =>
      rw [executed] at ran
      cases ran
      exact ⟨available, _, rfl, by rw [available]⟩
  · cases ran

/-! ### The leaky bucket -/

/-- The hash that a rejected request leaves: the bucket is full to the brim. -/
structure Brimful (c : LeakyBucket.Config ℚ) (now : Instant) (fields : Table String) : Prop where
  volume : fields.get? "volume" = some (toString c.volume)
  rate : fields.get? "rate" = some (Arithmetic.text c.rate)
  lastTime : fields.get? "last_time" = some (toString now.seconds)
  count : fields.get? "count" = some (toString c.volume)

section Bucket

variable {c : LeakyBucket.Config ℚ} {n m : ℕ}

/-- A request that the script rejects leaves a full bucket. -/
theorem exists_brimful (poured : pour ℚ now key (SharedLeakyBucket.arguments c now n) slots =
      .ok (slots', 0)) :
    ∃ fields, slots' = slots.insert key
        ⟨.hash fields, now.after? (bucketLifetime (c.volume : ℚ) c.rate)⟩ ∧
      Brimful c now fields := by
  have readVolume : argument Arithmetic.ofText? (SharedLeakyBucket.arguments c now n) 0 =
      .ok (c.volume : ℚ) := argument_eq rfl (Exact.ofText?_toString_nat c.volume)
  have readRate : argument Arithmetic.ofText? (SharedLeakyBucket.arguments c now n) 1 =
      .ok c.rate := argument_eq rfl (Exact.ofText?_text c.rate)
  obtain ⟨volume, known, poured⟩ := exists_of_bind_eq_ok poured
  cases readVolume.symm.trans known
  obtain ⟨rate, known, poured⟩ := exists_of_bind_eq_ok poured
  cases readRate.symm.trans known
  obtain ⟨requested, -, poured⟩ := exists_of_bind_eq_ok poured
  obtain ⟨current, -, poured⟩ := exists_of_bind_eq_ok poured
  obtain ⟨stored, -, poured⟩ := exists_of_bind_eq_ok poured
  obtain ⟨lastTime, -, poured⟩ := exists_of_bind_eq_ok poured
  obtain ⟨count, -, poured⟩ := exists_of_bind_eq_ok poured
  dsimp only at poured
  generalize Arithmetic.greater (count + requested - (current - lastTime) * c.rate)
    ((0 : ℕ) : ℚ) = remain at poured
  cases overflow : Arithmetic.below (c.volume : ℚ) remain with
  | false =>
    rw [overflow] at poured
    cases poured
  | true =>
    rw [overflow] at poured
    cases poured
    refine ⟨_, rfl, ?_⟩
    constructor <;> simp [SharedLeakyBucket.arguments]

/-- A full bucket rejects every request, which leaves it full. -/
theorem pour_brimful {fields : Table String} {slot : Slot} (held : slots.get? key = some slot)
    (value : slot = ⟨.hash fields, now.after? (bucketLifetime (c.volume : ℚ) c.rate)⟩)
    (full : Brimful c now fields) (positive : 1 ≤ n) :
    pour ℚ now key (SharedLeakyBucket.arguments c now n) slots = .ok (slots, 0) := by
  set args := SharedLeakyBucket.arguments c now n
  have readVolume : argument Arithmetic.ofText? args 0 = .ok (c.volume : ℚ) :=
    argument_eq rfl (Exact.ofText?_toString_nat c.volume)
  have readRate : argument Arithmetic.ofText? args 1 = .ok c.rate :=
    argument_eq rfl (Exact.ofText?_text c.rate)
  have readUnits : argument Arithmetic.ofText? args 2 = .ok (n : ℚ) :=
    argument_eq rfl (Exact.ofText?_toString_nat n)
  have readTime : argument Arithmetic.ofText? args 3 = .ok (now.seconds : ℚ) :=
    argument_eq rfl (Exact.ofText?_toString now.seconds)
  have filled : fields.isEmpty = false := by
    cases empty : fields.isEmpty with
    | false => rfl
    | true => exact nomatch (Table.get?_of_isEmpty empty "count").symm.trans full.count
  have stored : hashAt slots key = .ok fields := by
    rw [hashAt, held, value]
    rfl
  have readCount : numberField fields "count" = .ok (c.volume : ℚ) := by
    have read : (fields.get? "count").bind Arithmetic.ofText? = some (c.volume : ℚ) := by
      rw [full.count]
      exact Exact.ofText?_toString_nat c.volume
    rw [numberField, read]
  have readLast : numberField fields "last_time" = .ok (now.seconds : ℚ) := by
    have read : (fields.get? "last_time").bind Arithmetic.ofText? = some (now.seconds : ℚ) := by
      rw [full.lastTime]
      exact Exact.ofText?_toString now.seconds
    rw [numberField, read]
  have overflows : Arithmetic.below (c.volume : ℚ) (Arithmetic.greater
      ((c.volume : ℚ) + n - (now.seconds - now.seconds) * c.rate) ((0 : ℕ) : ℚ)) = true := by
    have unit : (1 : ℚ) ≤ n := by exact_mod_cast positive
    rw [Exact.below_iff, Exact.greater_eq_max, lt_max_iff, sub_self, zero_mul, sub_zero]
    exact .inl (by linarith)
  have written : args.getD 0 "" = toString c.volume ∧
      args.getD 1 "" = Arithmetic.text c.rate ∧ args.getD 3 "" = toString now.seconds :=
    ⟨rfl, rfl, rfl⟩
  simp only [pour, readVolume, readRate, readUnits, readTime, stored, bind, Except.bind, filled,
    readLast, readCount, overflows, written, Bool.false_eq_true, if_false, if_true,
    Table.insert_self full.volume, Table.insert_self full.rate, Table.insert_self full.lastTime,
    Table.insert_self full.count]
  rw [← value, Table.insert_self held]
  rfl

/-- **A request that the script of the bucket rejects is rejected again.** -/
theorem pour_again (ran : store.eval ℚ now .leakyBucket [key]
      (SharedLeakyBucket.arguments c now n) = (store', .ok 0)) (positive : 1 ≤ m) :
    store'.eval ℚ now .leakyBucket [key] (SharedLeakyBucket.arguments c now m) =
      (store', .ok 0) := by
  obtain ⟨available, slots', poured, rfl⟩ := exists_of_eval_eq_ok ran
  rw [execute_leakyBucket] at poured
  obtain ⟨fields, rfl, full⟩ := exists_brimful poured
  set slot : Slot := ⟨.hash fields, now.after? (bucketLifetime (c.volume : ℚ) c.rate)⟩
  have live : slot.isLive now = true := SharedLeakyBucket.isLive_of_minute c _ (by omega)
  refine eval_of_execute_eq_ok rfl ?_
  rw [live_insert live, execute_leakyBucket]
  exact pour_brimful (by rw [Table.get?_insert, if_pos rfl]) rfl full positive

end Bucket

/-! ### Sorted sets -/

/-- A store as a rejected request leaves it: no key has expired, and one holds its members for a
lifetime from now on. -/
structure Settled (store : Store) (now : Instant) (key : String) (members : SortedSet)
    (lifetime : Span) : Prop where
  available : store.available = true
  current : store.live now = store.slots
  held : store.slots.get? key = some ⟨.sortedSet members, now.after? lifetime⟩
  filled : members.isEmpty = false

section SortedSets

variable {members : SortedSet}

/-- The members that are put, and the lifetime that is renewed, are those of a settled store. -/
theorem settled_expire (store : Store) (now : Instant) (key : String)
    (filled : members.isEmpty = false) (lasting : 0 < lifetime.nanos) :
    Settled (expire ⟨putSortedSet (store.live now) key members, true⟩ now key lifetime).1 now key
      members lifetime where
  available := available_expire ..
  current := by
    refine Table.filter_eq_self fun other slot found => ?_
    rw [get?_expire_putSortedSet store now key other filled] at found
    split at found
    · cases found
      exact Slot.isLive_after _ (by omega)
    · exact isLive_of_get?_live found
  held := by rw [get?_expire_putSortedSet store now key key filled, if_pos rfl]
  filled := filled

namespace Settled

variable (h : Settled store now key members lifetime)

include h

theorem sortedSetAt_eq : sortedSetAt (store.live now) key = .ok members := by
  rw [sortedSetAt, h.current, h.held]
  rfl

/-- The members that a key holds can be put there. -/
theorem putSortedSet_eq : putSortedSet (store.live now) key members = store.slots := by
  rw [putSortedSet, if_neg (by simp [h.filled]), h.current, h.held]
  exact Table.insert_self h.held

/-- The lifetime is renewed to what it is. -/
theorem expire_eq : (store.expire now key lifetime).1 = store := by
  obtain ⟨slots, available⟩ := store
  have same := h.current
  have held := h.held
  simp only at same held
  rw [expire, if_pos h.available]
  simp only [same, held, Table.insert_self held]

theorem eq_mk : (⟨store.slots, true⟩ : Store) = store := by rw [← h.available]

theorem purge_eq : store.purge now = store := by rw [purge, h.current]

end Settled

variable {α : Type} [Arithmetic α]

theorem eq_of_argument {args : List String} {index n : ℕ} {value : ℤ}
    (found : args[index]? = some (toString n)) (read : argument integer? args index = .ok value) :
    n < 2 ^ 63 ∧ value = n := by
  rw [argument_toString_nat found] at read
  split at read
  · rename_i small
    cases read
    exact ⟨small, rfl⟩
  · cases read

/-- The sliding window script rejects a request whose arguments can be read if enough members are in
the window, and leaves them. -/
theorem recordRequest_eq_rejected_iff {args : List String} :
    recordRequest key args slots = .ok (slots', 0) ↔
      ∃ boundary current limit member members, argument integer? args 0 = .ok boundary ∧
        argument integer? args 1 = .ok current ∧ argument integer? args 2 = .ok limit ∧
        argument some args 3 = .ok member ∧ sortedSetAt slots key = .ok members ∧
        limit ≤ members.count boundary current ∧ slots' = putSortedSet slots key members := by
  constructor
  · intro ran
    obtain ⟨boundary, current, limit, member, members, readBoundary, readNow, readLimit,
      readMember, held, ends⟩ := exists_of_recordRequest_eq_ok ran
    split at ends
    · rename_i full
      exact ⟨_, _, _, _, _, readBoundary, readNow, readLimit, readMember, held, full, ends.2⟩
    · cases ends.1
  · rintro ⟨boundary, current, limit, member, members, readBoundary, readNow, readLimit, readMember,
      held, full, rfl⟩
    simp [recordRequest, readBoundary, readNow, readLimit, readMember, held, full, bind,
      Except.bind, pure, Except.pure]

/-- **A request that the script of the window rejects is rejected again**, and it leaves the store
as it is. -/
theorem eval_slidingWindow_again {boundary : Instant} {limit : ℕ} {member : String}
    (ran : store.eval α now .slidingWindow [key]
      (SharedSlidingWindow.arguments boundary now limit member) = (store', .ok 0))
    (positive : 0 < limit) (lasting : 0 < lifetime.nanos) :
    let rested := (store'.expire now key lifetime).1
    (rested.expire now key lifetime).1 = rested ∧
      ∀ name, rested.eval α now .slidingWindow [key]
        (SharedSlidingWindow.arguments boundary now limit name) = (rested, .ok 0) := by
  obtain ⟨available, slots, executed, rfl⟩ := exists_of_eval_eq_ok ran
  rw [execute_slidingWindow] at executed
  obtain ⟨first, second, bound, _, members, readBoundary, readNow, readLimit, -, held, full, rfl⟩ :=
    recordRequest_eq_rejected_iff.1 executed
  obtain ⟨-, rfl⟩ := eq_of_argument rfl readLimit
  have filled : members.isEmpty = false := by
    rw [Int.ofNat_le, SortedSet.count_eq_scoring] at full
    exact SortedSet.isEmpty_of_scoring_pos (positive.trans_le full)
  have settled := settled_expire store now key filled lasting
  refine ⟨settled.expire_eq, fun name => ?_⟩
  refine (eval_of_execute_eq_ok settled.available ?_).trans (by rw [settled.eq_mk])
  rw [execute_slidingWindow]
  exact recordRequest_eq_rejected_iff.2 ⟨first, second, _, name, members, readBoundary, readNow,
    readLimit, rfl, settled.sortedSetAt_eq, full, settled.putSortedSet_eq.symm⟩

/-- The sliding log script rejects a request whose arguments can be read if enough members are in
the window after those before it have gone. -/
theorem recordUnits_eq_rejected_iff {args : List String} :
    recordUnits key args slots = .ok (slots', 0) ↔
      ∃ left right current limit requested member members, argument integer? args 0 = .ok left ∧
        argument integer? args 1 = .ok right ∧ argument integer? args 2 = .ok current ∧
        argument integer? args 3 = .ok limit ∧ argument integer? args 4 = .ok requested ∧
        argument some args 5 = .ok member ∧ sortedSetAt slots key = .ok members ∧
        limit ≤ (members.removeBelow left).count left right ∧
        slots' = putSortedSet slots key (members.removeBelow left) := by
  constructor
  · intro ran
    obtain ⟨left, right, current, limit, requested, member, members, readLeft, readRight, readNow,
      readLimit, readUnits, readMember, held, ends⟩ := exists_of_recordUnits_eq_ok ran
    split at ends
    · rename_i full
      exact ⟨_, _, _, _, _, _, _, readLeft, readRight, readNow, readLimit, readUnits, readMember,
        held, full, ends.2⟩
    · cases ends.1
  · rintro ⟨left, right, current, limit, requested, member, members, readLeft, readRight, readNow,
      readLimit, readUnits, readMember, held, full, rfl⟩
    simp [recordUnits, readLeft, readRight, readNow, readLimit, readUnits, readMember, held, full,
      bind, Except.bind, pure, Except.pure]

/-- **A request that the script of the log rejects is rejected again**, unless it has more units
than the script can read, which is an error. Both leave the store as it is. -/
theorem eval_slidingLog_again {left right : Instant} {limit n : ℕ} {member : String}
    (ran : store.eval α now .slidingLog [key]
      (SharedSlidingLog.arguments left right now limit n member) = (store', .ok 0))
    (indexed : Indexed store.slots) (positive : 0 < limit) (lasting : 0 < lifetime.nanos) :
    let rested := (store'.expire now key lifetime).1
    (rested.expire now key lifetime).1 = rested ∧
      ∀ m name, rested.eval α now .slidingLog [key]
          (SharedSlidingLog.arguments left right now limit m name) =
        (rested, if m < 2 ^ 63 then .ok 0 else .error (.store (.badArgument 5))) := by
  obtain ⟨available, slots, executed, rfl⟩ := exists_of_eval_eq_ok ran
  rw [execute_slidingLog] at executed
  obtain ⟨first, last, second, bound, _, _, members, readLeft, readRight, readNow, readLimit, -, -,
    held, full, rfl⟩ := recordUnits_eq_rejected_iff.1 executed
  obtain ⟨-, rfl⟩ := eq_of_argument rfl readLimit
  have coherent : members.Coherent := (indexed.filter _).sortedSetAt held
  have filled : (members.removeBelow first).isEmpty = false := by
    rw [Int.ofNat_le, SortedSet.count_eq_scoring] at full
    exact SortedSet.isEmpty_of_scoring_pos (positive.trans_le full)
  have settled := settled_expire store now key filled lasting
  refine ⟨settled.expire_eq, fun m name => ?_⟩
  have units := argument_toString_nat
    (rfl : (SharedSlidingLog.arguments left right now limit m name)[4]? = some (toString m))
  split
  · rename_i small
    rw [if_pos small] at units
    refine (eval_of_execute_eq_ok settled.available ?_).trans (by rw [settled.eq_mk])
    rw [execute_slidingLog]
    refine recordUnits_eq_rejected_iff.2 ⟨first, last, second, _, _, name, _, readLeft, readRight,
      readNow, readLimit, units, rfl, settled.sortedSetAt_eq, ?_, ?_⟩
    · rwa [coherent.removeBelow_removeBelow]
    · rw [coherent.removeBelow_removeBelow, settled.putSortedSet_eq]
  · rename_i heavy
    rw [if_neg heavy] at units
    refine (eval_of_execute_eq_error settled.available ?_).trans (by rw [settled.purge_eq])
    have reads : argument integer? (SharedSlidingLog.arguments left right now limit m name) 0 =
        .ok first ∧ argument integer? (SharedSlidingLog.arguments left right now limit m name) 1 =
        .ok last ∧ argument integer? (SharedSlidingLog.arguments left right now limit m name) 2 =
        .ok second ∧ argument integer? (SharedSlidingLog.arguments left right now limit m name) 3 =
        .ok (limit : ℤ) := ⟨readLeft, readRight, readNow, readLimit⟩
    rw [execute_slidingLog]
    simp only [recordUnits, reads, units, bind, Except.bind]

end SortedSets

end Store

end Throttle
