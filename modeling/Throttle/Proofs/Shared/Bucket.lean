import Mathlib.Tactic.Linarith
import Throttle.Proofs.Decimal.Rational
import Throttle.Proofs.Shared.Request

/-!
# A request of the shared leaky bucket

A bucket in a store is a hash with a level and the unix second of the last call. A request adds its
units to the level and takes off what has drained since, and only then is the level raised to zero:
what would have drained while the bucket stood empty is taken off the request. So the level that a
request finds can lie below zero, by what the bucket has stood idle.

A key that expires takes the level with it. It lives long enough for a full bucket to drain.

## Main definitions

* `SharedLeakyBucket.found`: the level that a request finds
* `SharedLeakyBucket.fits`, `SharedLeakyBucket.levelAfter`: the decision on a request and the level
  that it leaves
* `SharedLeakyBucket.Rests`: what a request leaves in the store

## Main results

* `SharedLeakyBucket.volume_le_of_expired`: a key outlives the time in which a full bucket drains
* `SharedLeakyBucket.Rests.drained`: what a key held has drained when it expires
* `SharedLeakyBucket.Rests.ready`: what a later request finds
* `SharedLeakyBucket.exists_pour`, `SharedLeakyBucket.allow_ready`: what a request does
-/

namespace Throttle

namespace SharedLeakyBucket

variable {c : LeakyBucket.Config ℚ} {store : Store} {key : String} {now : Instant}

/-! ## The lifetime of a key -/

/-- A bucket drains in half of the lifetime of its key, rounded down, or in a minute. -/
theorem volume_le_rate_mul_seconds (positive : 0 < c.rate) :
    (c.volume : ℚ) ≤ c.rate * (max 60 ⌊c.volume / c.rate * 2⌋.toNat : ℕ) := by
  have drained : (c.volume : ℚ) / c.rate ≤ (max 60 ⌊c.volume / c.rate * 2⌋.toNat : ℕ) := by
    rw [Nat.cast_max, le_max_iff]
    by_cases short : (c.volume : ℚ) / c.rate ≤ 60
    · exact .inl short
    · have below := Int.lt_floor_add_one ((c.volume : ℚ) / c.rate * 2)
      have size : ((⌊(c.volume : ℚ) / c.rate * 2⌋ : ℤ) : ℚ) ≤
          (⌊(c.volume : ℚ) / c.rate * 2⌋.toNat : ℕ) := by
        exact_mod_cast Int.self_le_toNat _
      exact .inr (by linarith)
  calc (c.volume : ℚ) = c.rate * (c.volume / c.rate) := by field_simp
    _ ≤ _ := mul_le_mul_of_nonneg_left drained positive.le

/-- **A key outlives the time in which a full bucket drains.** -/
theorem volume_le_of_expired (positive : 0 < c.rate) {deadline later : Instant}
    (ends : now.after? (Store.bucketLifetime (c.volume : ℚ) c.rate) = some deadline)
    (expired : deadline ≤ later) :
    (c.volume : ℚ) ≤ c.rate * ((later.seconds - now.seconds : ℤ) : ℚ) := by
  refine (volume_le_rate_mul_seconds positive).trans (mul_le_mul_of_nonneg_left ?_ positive.le)
  have moved := (Instant.shift?_eq_some_iff.1 ends).1
  have whole : (max 60 ⌊(c.volume : ℚ) / c.rate * 2⌋.toNat : ℤ) ≤ later.seconds - now.seconds := by
    rw [Instant.le_def, moved] at expired
    change now.nanos + (max 60 ⌊(c.volume : ℚ) / c.rate * ((2 : ℕ) : ℚ)⌋.toNat * 1000000000 : ℕ) ≤ _
      at expired
    rw [Nat.cast_ofNat] at expired
    simp only [Instant.seconds]
    omega
  exact_mod_cast whole

/-! ## What a request finds -/

/-- A hash is read as a bucket with a level at a unix second. -/
structure Reads (fields : Table String) (level : ℚ) (second : ℤ) : Prop where
  count : (fields.get? "count").bind Exact.ofText? = some level
  lastTime : (fields.get? "last_time").bind Exact.ofText? = some (second : ℚ)

/-- The level that a request finds: the stored level less what has drained since, and nothing in a
bucket that is new. It lies below zero if the bucket has stood empty. -/
def found (rate : ℚ) (store : Store) (key : String) (now : Instant) : ℚ :=
  match (store.hget now key "count").bind Exact.ofText?,
    (store.hget now key "last_time").bind Exact.ofText? with
  | some level, some second => level - rate * (now.seconds - second)
  | _, _ => 0

/-- Whether a request that finds a level fits into the volume. -/
def fits (volume : ℕ) (found : ℚ) (n : ℕ) : Bool := decide (max (found + n) 0 ≤ volume)

/-- The level that a request leaves: a rejected one fills the bucket. -/
def levelAfter (volume : ℕ) (found : ℚ) (n : ℕ) : ℚ :=
  if fits volume found n then max (found + n) 0 else volume

theorem levelAfter_le (volume : ℕ) (found : ℚ) (n : ℕ) : levelAfter volume found n ≤ volume := by
  rw [levelAfter]
  split
  · rename_i fit
    exact of_decide_eq_true fit
  · exact le_refl _

/-- **A request pours no more units than the level rises.** -/
theorem poured_le_levelAfter_sub {volume n : ℕ} {found : ℚ} (atMost : found ≤ volume) :
    ((if fits volume found n then n else 0 : ℕ) : ℚ) ≤ levelAfter volume found n - found := by
  rw [levelAfter]
  split
  · have := le_max_left (found + n) 0
    linarith
  · rw [Nat.cast_zero]
    linarith

/-- A request at `now` finds a bucket or none. -/
structure Ready (c : LeakyBucket.Config ℚ) (store : Store) (key : String) (now : Instant) :
    Prop where
  available : store.available = true
  hash : (store.live now).get? key = none ∨ ∃ slot fields level second,
    (store.live now).get? key = some slot ∧ slot.value = .hash fields ∧ Reads fields level second
  atMost : found c.rate store key now ≤ c.volume

/-- What a request at `now` leaves in the store. -/
structure Rests (c : LeakyBucket.Config ℚ) (store : Store) (key : String) (level : ℚ)
    (now : Instant) : Prop where
  available : store.available = true
  hash : ∃ fields, store.slots.get? key =
      some ⟨.hash fields, now.after? (Store.bucketLifetime (c.volume : ℚ) c.rate)⟩ ∧
    Reads fields level now.seconds
  atMost : level ≤ c.volume

theorem found_of_absent (rate : ℚ) (absent : (store.live now).get? key = none) :
    found rate store key now = 0 := by
  simp [found, Store.hget, Store.slot?, absent]

theorem hget_of_hash {slot : Slot} {fields : Table String}
    (held : (store.live now).get? key = some slot) (value : slot.value = .hash fields)
    (name : String) : store.hget now key name = fields.get? name := by
  simp [Store.hget, Store.slot?, held, value]

theorem found_of_reads (rate : ℚ) {level : ℚ} {second : ℤ} {slot : Slot} {fields : Table String}
    (held : (store.live now).get? key = some slot) (value : slot.value = .hash fields)
    (reads : Reads fields level second) :
    found rate store key now = level - rate * (now.seconds - second) := by
  rw [found, hget_of_hash held value, hget_of_hash held value, reads.count, reads.lastTime]

/-- A key that is absent from a store is ready. -/
theorem ready_of_absent (available : store.available = true)
    (absent : store.slots.get? key = none) : Ready c store key now := by
  have gone : (store.live now).get? key = none := by
    rw [Store.get?_live, absent, Option.filter_none]
  exact ⟨available, .inl gone, found_of_absent c.rate gone ▸ Nat.cast_nonneg _⟩

/-- What a key held has drained when it expires. -/
theorem Rests.drained {level : ℚ} (r : Rests c store key level now) (positive : 0 < c.rate)
    {later : Instant} (gone : (store.live later).get? key = none) :
    level - c.rate * (later.seconds - now.seconds) ≤ 0 := by
  obtain ⟨fields, held, -⟩ := r.hash
  rw [Store.get?_live, held, Option.filter_eq_none_iff] at gone
  obtain ⟨deadline, ends, passed⟩ := Slot.exists_of_not_isLive (gone _ rfl)
  have full := volume_le_of_expired positive ends passed
  have atMost := r.atMost
  rw [Int.cast_sub] at full
  linarith

/-- **A later request finds the level that was left**, less what has drained since, or a new bucket
after a time in which all of it has drained. -/
theorem Rests.ready {level : ℚ} (r : Rests c store key level now) (positive : 0 < c.rate)
    {later : Instant} (order : now ≤ later) :
    Ready c store key later ∧
      level - c.rate * (later.seconds - now.seconds) ≤ found c.rate store key later := by
  obtain ⟨fields, held, reads⟩ := r.hash
  have drained : 0 ≤ c.rate * ((later.seconds : ℚ) - now.seconds) := by
    have forward : now.seconds ≤ later.seconds := by
      rw [Instant.le_def] at order
      simp only [Instant.seconds]
      omega
    exact mul_nonneg positive.le (sub_nonneg.2 (Int.cast_le.2 forward))
  have atMost := r.atMost
  have filtered := Store.get?_live store later key
  rw [held] at filtered
  by_cases live : Slot.isLive
      ⟨.hash fields, now.after? (Store.bucketLifetime (c.volume : ℚ) c.rate)⟩ later = true
  · rw [Option.filter_some, if_pos live] at filtered
    have finds := found_of_reads c.rate filtered rfl reads
    refine ⟨⟨r.available, .inr ⟨_, _, _, _, filtered, rfl, reads⟩, ?_⟩, finds.ge⟩
    rw [finds]
    linarith
  · -- The key has expired, and by then the bucket had run dry.
    rw [Option.filter_some, if_neg live] at filtered
    have finds := found_of_absent c.rate filtered
    exact ⟨⟨r.available, .inl filtered, finds ▸ Nat.cast_nonneg _⟩,
      finds ▸ r.drained positive filtered⟩

/-- A key lives for at least a minute. -/
theorem isLive_of_minute (c : LeakyBucket.Config ℚ) (value : Value) {now later : Instant}
    (soon : later.nanos < now.nanos + 60 * 1000000000) :
    Slot.isLive ⟨value, now.after? (Store.bucketLifetime (c.volume : ℚ) c.rate)⟩ later = true := by
  have minute : 60 * 1000000000 ≤ (Store.bucketLifetime (c.volume : ℚ) c.rate).nanos :=
    Nat.mul_le_mul_right _ (le_max_left _ _)
  exact Slot.isLive_after value (by omega)

theorem Rests.found_eq {level : ℚ} (r : Rests c store key level now) {later : Instant}
    (soon : later.nanos < now.nanos + 60 * 1000000000) :
    found c.rate store key later = level - c.rate * (later.seconds - now.seconds) := by
  obtain ⟨fields, held, reads⟩ := r.hash
  have filtered := Store.get?_live store later key
  rw [held, Option.filter_some, if_pos (isLive_of_minute c _ soon)] at filtered
  exact found_of_reads c.rate filtered rfl reads

/-! ## What a request does -/

/-- What the script does with the arguments of a request, if it reads the hash as a level at a unix
second, or finds none and starts a bucket. -/
theorem pour_arguments {slots : Table Slot} {stored : Table String} {level : ℚ} {second : ℤ}
    (held : Store.hashAt slots key = .ok stored)
    (reads : Reads (if stored.isEmpty then
      (stored.insert "last_time" (toString now.seconds)).insert "count" "0" else stored)
        level second) (n : ℕ) :
    ∃ fields, Store.pour ℚ now key (arguments c now n) slots =
        .ok (slots.insert key
          ⟨.hash fields, now.after? (Store.bucketLifetime (c.volume : ℚ) c.rate)⟩,
          if fits c.volume (level - c.rate * (now.seconds - second)) n then 1 else 0) ∧
      Reads fields (levelAfter c.volume (level - c.rate * (now.seconds - second)) n)
        now.seconds ∧
      (fields.get? "rate").bind Exact.ofText? = some c.rate := by
  set args := arguments c now n
  have readVolume : Store.argument Arithmetic.ofText? args 0 = .ok (c.volume : ℚ) :=
    Store.argument_eq rfl (Exact.ofText?_toString_nat c.volume)
  have readRate : Store.argument Arithmetic.ofText? args 1 = .ok c.rate :=
    Store.argument_eq rfl (Exact.ofText?_text c.rate)
  have readUnits : Store.argument Arithmetic.ofText? args 2 = .ok (n : ℚ) :=
    Store.argument_eq rfl (Exact.ofText?_toString_nat n)
  have readTime : Store.argument Arithmetic.ofText? args 3 = .ok (now.seconds : ℚ) :=
    Store.argument_eq rfl (Exact.ofText?_toString now.seconds)
  set bucket := if stored.isEmpty then
    (stored.insert "last_time" (toString now.seconds)).insert "count" "0" else stored with started
  have readCount : Store.numberField bucket "count" = .ok level := by
    rw [Store.numberField, show (bucket.get? "count").bind Arithmetic.ofText? = some level from
      reads.count]
  have readLast : Store.numberField bucket "last_time" = .ok (second : ℚ) := by
    rw [Store.numberField, show (bucket.get? "last_time").bind Arithmetic.ofText? =
      some (second : ℚ) from reads.lastTime]
  -- What has drained is taken off before the level is raised to zero.
  set finds := level - c.rate * (now.seconds - second)
  have remains : Arithmetic.greater (level + n - (now.seconds - second) * c.rate)
      ((0 : ℕ) : ℚ) = max (finds + n) 0 := by
    rw [Exact.greater_eq_max, Nat.cast_zero]
    congr 1
    ring
  have overflows : Arithmetic.below (c.volume : ℚ) (max (finds + n) 0) =
      !fits c.volume finds n := by
    rw [Bool.eq_iff_iff, Exact.below_iff, fits, Bool.not_eq_true', decide_eq_false_iff_not, not_le]
  refine ⟨(((bucket.insert "volume" (toString c.volume)).insert "rate" (Exact.text c.rate)).insert
      "last_time" (toString now.seconds)).insert "count"
        (if !fits c.volume finds n then toString c.volume else Exact.text (max (finds + n) 0)),
    ?_, ⟨?_, ?_⟩, ?_⟩
  · have written : args.getD 3 "" = toString now.seconds := rfl
    simp only [Store.pour, readVolume, readRate, readUnits, readTime, held, bind, Except.bind,
      written, ← started, readLast, readCount, remains, overflows]
    cases fits c.volume finds n <;> rfl
  · rw [Table.get?_insert, if_pos rfl, Option.bind_some, levelAfter]
    cases fits c.volume finds n
    · exact Exact.ofText?_toString_nat c.volume
    · exact Exact.ofText?_text (max (finds + n) 0)
  · rw [Table.get?_insert, if_neg (by decide), Table.get?_insert, if_pos rfl]
    exact Exact.ofText?_toString now.seconds
  · rw [Table.get?_insert, if_neg (by decide), Table.get?_insert, if_neg (by decide),
      Table.get?_insert, if_pos rfl]
    exact Exact.ofText?_text c.rate

/-- What the script of the bucket answers is what the store answers. -/
theorem eval_leakyBucket (available : store.available = true) {args : List String}
    {slots : Table Slot} {reply : Int}
    (ran : Store.pour ℚ now key args (store.live now) = .ok (slots, reply)) :
    store.eval ℚ now .leakyBucket [key] args = (⟨slots, true⟩, .ok reply) :=
  Store.eval_of_execute_eq_ok available ((Store.execute_leakyBucket ..).trans ran)

/-- **A request fits, or fills the bucket.** It is decided by the level that it finds, if it finds a
bucket or none. -/
theorem exists_pour (l : SharedLeakyBucket ℚ) (c : LeakyBucket.Config ℚ)
    (available : store.available = true)
    (hash : (store.live now).get? key = none ∨ ∃ slot fields level second,
      (store.live now).get? key = some slot ∧ slot.value = .hash fields ∧
        Reads fields level second) (n : ℕ) :
    ∃ fields, l.pour (Store.context ℚ now) key c n store =
        .ok (⟨(store.live now).insert key
          ⟨.hash fields, now.after? (Store.bucketLifetime (c.volume : ℚ) c.rate)⟩, true⟩,
          .ok (fits c.volume (found c.rate store key now) n)) ∧
      Reads fields (levelAfter c.volume (found c.rate store key now) n) now.seconds ∧
      (fields.get? "rate").bind Exact.ofText? = some c.rate := by
  obtain ⟨fields, poured, reads, rate⟩ : ∃ fields, Store.pour ℚ now key (arguments c now n)
      (store.live now) = .ok ((store.live now).insert key
        ⟨.hash fields, now.after? (Store.bucketLifetime (c.volume : ℚ) c.rate)⟩,
        if fits c.volume (found c.rate store key now) n then 1 else 0) ∧
      Reads fields (levelAfter c.volume (found c.rate store key now) n) now.seconds ∧
      (fields.get? "rate").bind Exact.ofText? = some c.rate := by
    rcases hash with absent | ⟨slot, stored, level, second, held, value, reads⟩
    · have empty : Store.hashAt (store.live now) key = .ok ∅ := by
        rw [Store.hashAt, absent, Option.map_none]
      have fresh : found c.rate store key now = 0 - c.rate * (now.seconds - now.seconds) := by
        rw [found_of_absent c.rate absent, sub_self, mul_zero, sub_zero]
      rw [fresh]
      refine pour_arguments empty ⟨?_, ?_⟩ n
      · exact Exact.ofText?_toString_nat 0
      · exact Exact.ofText?_toString now.seconds
    · have read : Store.hashAt (store.live now) key = .ok stored := by
        rw [Store.hashAt, held, Option.map_some, value]
      rw [found_of_reads c.rate held value reads]
      refine pour_arguments read ?_ n
      -- A hash from which a level is read is not empty.
      rw [if_neg]
      · exact reads
      · intro empty
        have level := reads.count
        rw [Table.get?_of_isEmpty empty] at level
        cases level
  refine ⟨fields, ?_, reads, rate⟩
  rw [pour, Store.now_context, Store.eval_context, eval_leakyBucket available poured]
  cases fits c.volume (found c.rate store key now) n <;> rfl

/-- A request by key that finds a bucket or none. -/
theorem allow_ready {l : SharedLeakyBucket ℚ} (params : l.keyed.state key = c)
    (ready : Ready c store key now) (n : ℕ) :
    ∃ store', l.allow (Store.context ℚ now) store key n =
        .ok (({ l with keyed := (l.keyed.obtain key).1 }, store'),
          .ok (fits c.volume (found c.rate store key now) n)) ∧
      Rests c store' key (levelAfter c.volume (found c.rate store key now) n) now := by
  obtain ⟨fields, poured, reads, -⟩ :=
    exists_pour { l with keyed := (l.keyed.obtain key).1 } c ready.available ready.hash n
  refine ⟨⟨(store.live now).insert key ⟨.hash fields, _⟩, true⟩, ?_, rfl,
    ⟨fields, by rw [Table.get?_insert, if_pos rfl], reads⟩, levelAfter_le _ _ _⟩
  simp only [allow, Keyed.obtain_snd, params, poured, Except.map]

end SharedLeakyBucket

end Throttle
