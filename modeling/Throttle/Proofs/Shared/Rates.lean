import Throttle.Proofs.Isolation.Limiter
import Throttle.Proofs.Shared.Agreement
import Throttle.Proofs.Shared.Bucket

/-!
# Changes of a shared bucket's rate

The rate of a shared leaky bucket lives in the limiter, its level and the second of its last request
in the store. A new rate changes nothing in the store, so that the next request drains the whole
time since the last one at the new rate, also the time before the change.

## Main definitions

* `SharedLeakyBucket.Left`: a slot as a request leaves it
* `SharedLeakyBucket.Holds`: a store in which every slot is as a request has left it

## Main results

* `SharedLeakyBucket.Holds.drive`: a limiter always answers, and leaves such a store
* `SharedLeakyBucket.Holds.drive_others`: calls about other keys leave a key alone
* `SharedLeakyBucket.drive_setRate_take`: the level of the next request after a change of the rate
-/

namespace Throttle

namespace SharedLeakyBucket

/-- A slot as a request leaves it: a level at a unix second, and the rate of the request. -/
structure Left (slot : Slot) (level : ℚ) (second : ℤ) (rate : ℚ) : Prop where
  hash : ∃ fields, slot.value = .hash fields ∧ Reads fields level second ∧
    (fields.get? "rate").bind Exact.ofText? = some rate

namespace Left

variable {slot : Slot} {level rate : ℚ} {second : ℤ} {store : Store} {now : Instant} {key : String}

/-- What a store shows of the slot. -/
theorem shows (left : Left slot level second rate) (held : (store.live now).get? key = some slot) :
    (store.hget now key "count").bind Exact.ofText? = some level ∧
      (store.hget now key "last_time").bind Exact.ofText? = some (second : ℚ) ∧
      (store.hget now key "rate").bind Exact.ofText? = some rate := by
  obtain ⟨fields, value, reads, carried⟩ := left.hash
  rw [hget_of_hash held value, hget_of_hash held value, hget_of_hash held value]
  exact ⟨reads.count, reads.lastTime, carried⟩

/-- What a request finds in the slot is a bucket. -/
theorem isHash (left : Left slot level second rate) (held : (store.live now).get? key = some slot) :
    ∃ slot fields level second, (store.live now).get? key = some slot ∧
      slot.value = .hash fields ∧ Reads fields level second := by
  obtain ⟨fields, value, reads, -⟩ := left.hash
  exact ⟨slot, fields, level, second, held, value, reads⟩

/-- A request of the slot at another rate is decided by the level with its units, less what has
drained at that rate. -/
theorem decided (left : Left slot level second rate) (held : (store.live now).get? key = some slot)
    (volume : ℕ) (rate' : ℚ) (n : ℕ) :
    let remains := max (level + n - (now.seconds - second) * rate') 0
    fits volume (found rate' store key now) n = decide (remains ≤ volume) ∧
      levelAfter volume (found rate' store key now) n =
        if remains ≤ volume then remains else volume := by
  intro remains
  obtain ⟨fields, value, reads, -⟩ := left.hash
  have same : max (found rate' store key now + n) 0 = remains := by
    rw [found_of_reads rate' held value reads]
    congr 1
    ring
  have fitting : fits volume (found rate' store key now) n = decide (remains ≤ volume) := by
    rw [fits, same]
  refine ⟨fitting, ?_⟩
  rw [levelAfter, fitting, same]
  simp only [decide_eq_true_eq]

end Left

/-- A store in which every slot is as a request of its key has left it, at one of the instants at
which there were such requests. -/
structure Holds (past : String → Set Instant) (store : Store) : Prop where
  available : store.available = true
  slots : ∀ key slot, store.slots.get? key = some slot →
    ∃ level rate, ∃ t ∈ past key, Left slot level t.seconds rate

namespace Holds

variable {past past' : String → Set Instant} {store : Store} {now : Instant} {key : String}

theorem empty (past : String → Set Instant) : Holds past ∅ where
  available := rfl
  slots key slot held := by cases held

theorem mono (h : Holds past store) (sub : past ≤ past') : Holds past' store where
  available := h.available
  slots key slot held := by
    obtain ⟨level, rate, t, member, left⟩ := h.slots key slot held
    exact ⟨level, rate, t, sub key member, left⟩

/-- What is live is as a request has left it. -/
theorem live (h : Holds past store) {slot : Slot} (held : (store.live now).get? key = some slot) :
    ∃ level rate, ∃ t ∈ past key, Left slot level t.seconds rate := by
  rw [Store.get?_live, Option.filter_eq_some_iff] at held
  exact h.slots key slot held.1

/-- A request leaves its key as requests do. -/
theorem pour (h : Holds past store) (member : now ∈ past key) (l : SharedLeakyBucket ℚ)
    (c : LeakyBucket.Config ℚ) (n : ℕ) :
    ∃ store' passed, l.pour (Store.context ℚ now) key c n store = .ok (store', .ok passed) ∧
      Holds past store' := by
  have hash : (store.live now).get? key = none ∨ ∃ slot fields level second,
      (store.live now).get? key = some slot ∧ slot.value = .hash fields ∧
        Reads fields level second := by
    cases held : (store.live now).get? key with
    | none => exact .inl rfl
    | some slot =>
      obtain ⟨level, rate, t, -, left⟩ := h.live held
      exact .inr (held ▸ left.isHash held)
  obtain ⟨fields, poured, reads, rate⟩ := exists_pour l c h.available hash n
  refine ⟨_, _, poured, rfl, fun other slot held => ?_⟩
  rw [Table.get?_insert] at held
  split at held
  case isTrue same =>
    subst same
    cases held
    exact ⟨_, _, now, member, ⟨fields, rfl, reads, rate⟩⟩
  case isFalse => exact h.live held

/-- **A call is answered**, and leaves such a store. -/
theorem step (h : Holds past store) (s : SharedLeakyBucket ℚ) (call : Call ℚ)
    (member : now ∈ past call.key) :
    ∃ s' store' outcome, Limiter.step (Store.context ℚ now) (.sharedLeakyBucket s, store) call =
      .ok ((.sharedLeakyBucket s', store'), outcome) ∧ Holds past store' := by
  -- A setter changes the parameters at most.
  have setter : ∀ result : Except LimiterError (Keyed (LeakyBucket.sharedScheme ℚ)),
      ∃ s' outcome, Limiter.changed (.sharedLeakyBucket s) store
        (result.map fun k => .sharedLeakyBucket { s with keyed := k }) =
          .ok ((.sharedLeakyBucket s', store), outcome) := by
    intro result
    cases result with
    | ok k => exact ⟨_, _, rfl⟩
    | error e => exact ⟨_, _, rfl⟩
  have request : ∀ key n, now ∈ past key → ∃ s' store' outcome,
      Limiter.answered ((s.allow (Store.context ℚ now) store key n).map
        fun ((s, store), outcome) => ((.sharedLeakyBucket s, store), outcome)) =
          .ok ((.sharedLeakyBucket s', store'), outcome) ∧ Holds past store' := by
    intro key n member
    obtain ⟨store', passed, poured, holds⟩ := h.pour member
      { s with keyed := (s.keyed.obtain key).1 } (s.keyed.state key) n
    have allowed : s.allow (Store.context ℚ now) store key n =
        .ok (({ s with keyed := (s.keyed.obtain key).1 }, store'), .ok passed) := by
      simp only [SharedLeakyBucket.allow, Keyed.obtain_snd, poured, Except.map]
    exact ⟨_, store', _, by rw [allowed]; rfl, holds⟩
  cases call with
  | allow key o => exact request key o.weight member
  | take key n => exact request key n member
  | check r count =>
    rw [Limiter.step, Limiter.check, SharedLeakyBucket.check]
    cases s.keyed.obtainFor r with
    | error e => exact ⟨_, store, _, rfl, h⟩
    | ok result =>
      obtain ⟨store', passed, poured, holds⟩ := h.pour (show now ∈ past r.name from member)
        { s with keyed := result.1 } result.2 (AllowOptions.ofCount count).weight
      exact ⟨_, store', _, by simp only [poured]; rfl, holds⟩
  | setRate key rate =>
    obtain ⟨s', outcome, same⟩ := setter (s.keyed.setLimit key rate now)
    exact ⟨s', store, outcome, same, h⟩
  | setBurst key v =>
    obtain ⟨s', outcome, same⟩ := setter (s.keyed.setBurst key v)
    exact ⟨s', store, outcome, same, h⟩
  | setWindow key window =>
    obtain ⟨s', outcome, same⟩ := setter (s.keyed.setWindow key window)
    exact ⟨s', store, outcome, same, h⟩
  | setLimitFor r =>
    obtain ⟨s', outcome, same⟩ := setter (s.keyed.setLimitFor r now)
    exact ⟨s', store, outcome, same, h⟩
  | setBurstFor r =>
    obtain ⟨s', outcome, same⟩ := setter (s.keyed.setBurstFor r)
    exact ⟨s', store, outcome, same, h⟩
  | setWindowFor r =>
    obtain ⟨s', outcome, same⟩ := setter (s.keyed.setWindowFor r)
    exact ⟨s', store, outcome, same, h⟩
  | shouldAllow | setLimit | setFixedWindow => exact ⟨s, store, _, rfl, h⟩

/-- **Calls are answered**, and leave such a store. -/
theorem drive (h : Holds past store) (s : SharedLeakyBucket ℚ) {calls : List (Instant × Call ℚ)}
    (seen : ∀ c ∈ calls, c.1 ∈ past c.2.key) :
    ∃ s' store' outcomes, Limiter.drive (.sharedLeakyBucket s, store) calls =
      .ok ((.sharedLeakyBucket s', store'), outcomes) ∧ Holds past store' := by
  induction calls generalizing s store with
  | nil => exact ⟨s, store, [], rfl, h⟩
  | cons c rest ih =>
    obtain ⟨s₁, store₁, outcome, stepped, h₁⟩ := h.step s c.2 (seen c (by simp))
    obtain ⟨s', store', outcomes, ran, h'⟩ :=
      ih h₁ s₁ fun c member => seen c (List.mem_cons_of_mem _ member)
    exact ⟨s', store', _, Limiter.drive_cons stepped ran, h'⟩

/-- **Calls about other keys** leave the parameters and the slot of a key alone. -/
theorem drive_others (h : Holds past store) (s : SharedLeakyBucket ℚ)
    {calls : List (Instant × Call ℚ)} (seen : ∀ c ∈ calls, c.1 ∈ past c.2.key)
    (others : ∀ c ∈ calls, c.2.key ≠ key) {later : Instant} (before : ∀ c ∈ calls, c.1 ≤ later) :
    ∃ s' store' outcomes, Limiter.drive (.sharedLeakyBucket s, store) calls =
      .ok ((.sharedLeakyBucket s', store'), outcomes) ∧ Holds past store' ∧
        s'.keyed.state key = s.keyed.state key ∧
        (store'.live later).get? key = (store.live later).get? key := by
  induction calls generalizing s store with
  | nil => exact ⟨s, store, [], rfl, h, rfl, rfl⟩
  | cons c rest ih =>
    obtain ⟨s₁, store₁, outcome, stepped, h₁⟩ := h.step s c.2 (seen c (by simp))
    obtain ⟨s', store', outcomes, ran, h', params, slot⟩ :=
      ih h₁ s₁ (fun c member => seen c (List.mem_cons_of_mem _ member))
        (fun c member => others c (List.mem_cons_of_mem _ member))
        (fun c member => before c (List.mem_cons_of_mem _ member))
    -- The effect of a call is confined to its own key, in the limiter and in the store.
    obtain ⟨agree, y, effect⟩ := Limiter.step_others stepped
    have different : key ∈ ({c.2.key} : Set String)ᶜ := fun same =>
      others c (by simp) (Set.mem_singleton_iff.1 same).symm
    have same : s₁.keyed.state key = s.keyed.state key := by
      cases agree with
      | sharedLeakyBucket agree =>
        rw [Keyed.state, Keyed.state, agree.defaults, agree.states different]
    have kept : (store₁.live later).get? key = (store.live later).get? key := by
      cases effect with
      | none unchanged => rw [show store₁ = store from unchanged]
      | script _ _ _ _ stores =>
        exact stores.others.slots key different later (before c (by simp))
    exact ⟨s', store', _, Limiter.drive_cons stepped ran, h', params.trans same, slot.trans kept⟩

end Holds

/-! ## The next request after a change of the rate -/

section Change

variable {store : Store} {key : String} {now later : Instant} {rate : ℚ}

/-- A new rate changes the parameters of its key, and nothing in the store. -/
theorem step_setRate (s : SharedLeakyBucket ℚ) (store : Store) (now : Instant) (key : String)
    (positive : 0 < rate) :
    Limiter.step (Store.context ℚ now) (.sharedLeakyBucket s, store) (.setRate key rate) =
      .ok ((.sharedLeakyBucket
        { s with keyed := s.keyed.put key { s.keyed.state key with rate := rate } }, store),
          .ok none) := by
  have sets : (LeakyBucket.sharedScheme ℚ).setLimit rate now =
      .when (checkRate rate) fun p => { p with rate := rate } := rfl
  exact Limiter.changed_setLimit_of_when sets (Exact.checkRate_eq_ok_iff.2 positive)
    (fun keyed => .sharedLeakyBucket { s with keyed := keyed }) s.keyed key (.sharedLeakyBucket s)
    store

/-- **A request** is decided by the level that it finds. It leaves the bucket as requests do, for at
least a minute. -/
theorem exists_take (s : SharedLeakyBucket ℚ) (available : store.available = true)
    (hash : (store.live now).get? key = none ∨ ∃ slot fields level second,
      (store.live now).get? key = some slot ∧ slot.value = .hash fields ∧
        Reads fields level second) (n : ℕ) :
    let c := s.keyed.state key
    ∃ s' store' slot, Limiter.step (Store.context ℚ now) (.sharedLeakyBucket s, store)
        (.take key n) = .ok ((.sharedLeakyBucket s', store'),
          .ok (some (fits c.volume (found c.rate store key now) n))) ∧
      s'.keyed.state key = c ∧ store'.available = true ∧
      (∀ later, later.nanos < now.nanos + 60 * 1000000000 →
        (store'.live later).get? key = some slot) ∧
      Left slot (levelAfter c.volume (found c.rate store key now) n) now.seconds c.rate := by
  intro c
  obtain ⟨fields, poured, reads, carried⟩ :=
    exists_pour { s with keyed := (s.keyed.obtain key).1 } c available hash n
  set slot : Slot := ⟨.hash fields, now.after? (Store.bucketLifetime (c.volume : ℚ) c.rate)⟩
  refine ⟨{ s with keyed := (s.keyed.obtain key).1 }, ⟨(store.live now).insert key slot, true⟩,
    slot, ?_, Keyed.state_obtain .., rfl, ?_, ⟨fields, rfl, reads, carried⟩⟩
  · simp only [Limiter.step, Limiter.take?, SharedLeakyBucket.allow, Keyed.obtain_snd]
    rw [poured]
    rfl
  · intro later soon
    rw [Store.get?_live, Table.get?_insert, if_pos rfl, Option.filter_some,
      if_pos (isLive_of_minute c _ soon)]

/-- Two levels below zero are raised to the same level. -/
theorem max_zero_eq_iff {a b : ℚ} : max a 0 = max b 0 ↔ a = b ∨ a ≤ 0 ∧ b ≤ 0 := by
  constructor
  · intro same
    rcases le_or_gt a 0 with dry | wet
    · rw [max_eq_right dry] at same
      exact .inr ⟨dry, (le_max_left b 0).trans same.ge⟩
    · rw [max_eq_left wet.le] at same
      rcases max_choice b 0 with left | right
      · exact .inl (same.trans left)
      · exact absurd (same.trans right) wet.ne'
  · rintro (rfl | ⟨dry, dry'⟩)
    · rfl
    · rw [max_eq_right dry, max_eq_right dry']

/-- What drains at one rate throughout, and what drains at the old rate up to a change, leave the
same level exactly if the rate is the old one, or there was no time before the change, or nothing is
left in both cases. -/
theorem drained_eq_iff (level : ℚ) (last change next : ℤ) (rate old : ℚ) :
    max (level - (next - last) * rate) 0 =
        max (level - (change - last) * old - (next - change) * rate) 0 ↔
      rate = old ∨ change = last ∨ level ≤ (next - last) * rate ∧
        level ≤ (change - last) * old + (next - change) * rate := by
  -- The levels differ by what the two rates drain apart before the change.
  have difference : level - (next - last) * rate =
      level - (change - last) * old - (next - change) * rate +
        ((change - last : ℤ) : ℚ) * (old - rate) := by
    push_cast
    ring
  rw [max_zero_eq_iff, sub_nonpos, sub_sub, sub_nonpos, ← sub_sub, difference, add_eq_left,
    mul_eq_zero, Int.cast_eq_zero, sub_eq_zero, sub_eq_zero, eq_comm (a := old)]
  tauto

/-- **The next request after a change of the rate** drains the whole time since the last one at the
new rate. So it finds the level that it would find if the bucket had drained at the old rate up to
the change exactly if the rate has not changed, or no second has passed since the last request, or
the bucket has run dry in both cases. -/
theorem drive_setRate_take {s₀ s : SharedLeakyBucket ℚ} {history : List (Instant × Call ℚ)}
    {outcomes : List Limiter.Outcome}
    (reached : Limiter.drive (.sharedLeakyBucket s₀, ∅) history =
      .ok ((.sharedLeakyBucket s, store), outcomes))
    {between : List (Instant × Call ℚ)}
    (ordered : ∀ c ∈ between, c.1 ≤ later) (others : ∀ c ∈ between, c.2.key ≠ key)
    (alive : store.exists? later key = true) (positive : 0 < rate) (n : ℕ) :
    ∃ count old, ∃ e ∈ history, e.2.key = key ∧
      (store.hget later key "count").bind Exact.ofText? = some count ∧
      (store.hget later key "last_time").bind Exact.ofText? = some (e.1.seconds : ℚ) ∧
      (store.hget later key "rate").bind Exact.ofText? = some old ∧
      let volume : ℚ := (s.keyed.state key).volume
      let level := max (count + n - (later.seconds - e.1.seconds) * rate) 0
      (∃ s' store' results, Limiter.drive (.sharedLeakyBucket s, store)
          ((now, .setRate key rate) :: between ++ [(later, .take key n)]) =
            .ok ((.sharedLeakyBucket s', store'),
              .ok none :: results ++ [.ok (some (decide (level ≤ volume)))]) ∧
        (store'.hget later key "count").bind Exact.ofText? =
          some (if level ≤ volume then level else volume)) ∧
      (level = max (count + n - (now.seconds - e.1.seconds) * old -
          (later.seconds - now.seconds) * rate) 0 ↔
        rate = old ∨ now.seconds = e.1.seconds ∨
          count + n ≤ (later.seconds - e.1.seconds) * rate ∧
          count + n ≤
            (now.seconds - e.1.seconds) * old + (later.seconds - now.seconds) * rate) := by
  obtain ⟨s', store', outcomes', ran, holds⟩ := (Holds.empty fun key =>
    {t | ∃ e ∈ history, e.2.key = key ∧ e.1 = t}).drive s₀ fun e member => ⟨e, member, rfl, rfl⟩
  rw [reached] at ran
  cases ran
  obtain ⟨slot, held⟩ := Option.isSome_iff_exists.1 alive
  obtain ⟨count, old, t, ⟨e, member, about, rfl⟩, left⟩ := holds.live held
  obtain ⟨counted, timed, carried⟩ := left.shows held
  refine ⟨count, old, e, member, about, counted, timed, carried, ?_, ?_⟩
  · -- Neither the new rate nor the calls about other keys reach the slot.
    obtain ⟨s₂, store₂, results, ran, holds₂, params, kept⟩ :=
      (holds.mono fun _ => Set.subset_univ _).drive_others
        { s with keyed := s.keyed.put key { s.keyed.state key with rate := rate } }
        (fun _ _ => Set.mem_univ _) others ordered
    rw [Keyed.state_put, if_pos rfl] at params
    have found := kept.trans held
    obtain ⟨s₃, store₃, slot₃, taken, -, -, lasts, left₃⟩ :=
      exists_take s₂ holds₂.available (.inr (left.isHash found)) n
    obtain ⟨decided, leaves⟩ := left.decided found (s.keyed.state key).volume rate n
    rw [params, decided] at taken
    rw [params, leaves] at left₃
    refine ⟨s₃, store₃, results, ?_, (left₃.shows (lasts later (by omega))).1⟩
    rw [List.cons_append]
    exact Limiter.drive_cons (step_setRate s store now key positive)
      (Limiter.drive_append_singleton ran taken)
  · exact drained_eq_iff _ _ _ _ _ _

/-- Leaky buckets in a store that drain one unit per second and hold a hundred. -/
def hundredUnits : SharedLeakyBucket ℚ := ⟨⟨⟨1, 100⟩, by decide +kernel, ∅⟩, none⟩

/-- A request fills the bucket, and leaves it full for at least a minute. -/
theorem exists_full : ∃ s store slot,
    Limiter.drive (.sharedLeakyBucket hundredUnits, ∅) [(.ofParts 1700000000 0, .take "k" 100)] =
      .ok ((.sharedLeakyBucket s, store), [.ok (some true)]) ∧
    s.keyed.state "k" = ⟨1, 100⟩ ∧ store.available = true ∧
    (store.live (.ofParts 1700000010 0)).get? "k" = some slot ∧ Left slot 100 1700000000 1 := by
  obtain ⟨s, store, slot, taken, params, available, lasts, left⟩ :=
    @exists_take ∅ "k" (.ofParts 1700000000 0) hundredUnits rfl (.inl rfl) 100
  have same : hundredUnits.keyed.state "k" = ⟨1, 100⟩ := rfl
  have new : found 1 ∅ "k" (.ofParts 1700000000 0) = 0 := found_of_absent 1 rfl
  have fit : fits 100 0 100 = true := by norm_num [fits]
  have full : levelAfter 100 0 100 = 100 := by norm_num [levelAfter, fit]
  simp only [same, new, fit, full] at taken params left
  exact ⟨s, store, slot, Limiter.drive_cons taken rfl, params, available, lasts _ (by decide), left⟩

/-- The bucket takes a hundred units more, ten seconds after it has been filled, if its rate has
just risen to ten units per second. -/
theorem drained_at_new_rate : ∃ s store outcomes s' store' results,
    Limiter.drive (.sharedLeakyBucket hundredUnits, ∅) [(.ofParts 1700000000 0, .take "k" 100)] =
      .ok ((.sharedLeakyBucket s, store), outcomes) ∧
    Limiter.drive (.sharedLeakyBucket s, store) [(.ofParts 1700000010 0, .setRate "k" 10),
        (.ofParts 1700000010 0, .take "other" 3), (.ofParts 1700000010 0, .take "k" 100)] =
      .ok ((.sharedLeakyBucket s', store'), .ok none :: results ++ [.ok (some true)]) ∧
    (store'.hget (.ofParts 1700000010 0) "k" "count").bind Exact.ofText? = some 100 := by
  obtain ⟨s, store, slot, reached, params, -, held, left⟩ := exists_full
  obtain ⟨count, old, e, member, -, reads, -, -, ⟨s', store', results, ran, leaves⟩, -⟩ :=
    @drive_setRate_take store "k" (.ofParts 1700000010 0) (.ofParts 1700000010 0) 10 hundredUnits s
      _ _ reached [(.ofParts 1700000010 0, .take "other" 3)] (by decide) (by decide)
      (Option.isSome_iff_exists.2 ⟨slot, held⟩) (by norm_num) 100
  cases List.mem_singleton.1 member
  cases (left.shows held).1.symm.trans reads
  have level : max ((100 : ℚ) + (100 : ℕ) -
      ((Instant.ofParts 1700000010 0).seconds - (Instant.ofParts 1700000000 0).seconds) * 10) 0 =
        100 := by
    norm_num [Instant.seconds, Instant.ofParts]
  rw [level, params] at ran leaves
  exact ⟨s, store, _, s', store', results, reached, ran, leaves⟩

/-- So the time before the change counts at the new rate: drained at the old rate until the change,
the bucket would hold ninety units, and a hundred more would overflow it. -/
theorem setRate_lets_through : ∃ s store s' store',
    Limiter.drive (.sharedLeakyBucket hundredUnits, ∅) [(.ofParts 1700000000 0, .take "k" 100)] =
      .ok ((.sharedLeakyBucket s, store), [.ok (some true)]) ∧
    (s.keyed.state "k").volume = 100 ∧ store.exists? (.ofParts 1700000010 0) "k" = true ∧
    (store.hget (.ofParts 1700000010 0) "k" "count").bind Exact.ofText? = some 100 ∧
    (store.hget (.ofParts 1700000010 0) "k" "last_time").bind Exact.ofText? = some 1700000000 ∧
    (store.hget (.ofParts 1700000010 0) "k" "rate").bind Exact.ofText? = some 1 ∧
    Limiter.drive (.sharedLeakyBucket s, store) [(.ofParts 1700000010 0, .setRate "k" 10),
        (.ofParts 1700000010 0, .take "k" 100)] =
      .ok ((.sharedLeakyBucket s', store'), [.ok none, .ok (some true)]) ∧
    (store'.hget (.ofParts 1700000010 0) "k" "count").bind Exact.ofText? = some 100 ∧
    100 <
      max (100 + 100 - (1700000010 - 1700000000) * 1 - (1700000010 - 1700000010) * 10 : ℚ) 0 := by
  obtain ⟨s, store, slot, reached, params, available, held, left⟩ := exists_full
  obtain ⟨counted, timed, carried⟩ := left.shows held
  set faster : SharedLeakyBucket ℚ :=
    { s with keyed := s.keyed.put "k" { s.keyed.state "k" with rate := 10 } }
  have same : faster.keyed.state "k" = ⟨10, 100⟩ := by
    rw [Keyed.state_put, if_pos rfl, params]
  obtain ⟨s', store', slot', taken, -, -, lasts, left'⟩ :=
    exists_take faster available (.inr (left.isHash held)) 100
  obtain ⟨decided, leaves⟩ := left.decided held 100 10 100
  have level : max ((100 : ℚ) + (100 : ℕ) -
      ((Instant.ofParts 1700000010 0).seconds - (1700000000 : ℤ)) * 10) 0 = 100 := by
    norm_num [Instant.seconds, Instant.ofParts]
  simp only [same, decided, leaves, level] at taken left'
  norm_num at taken left'
  exact ⟨s, store, s', store', reached, by rw [params], Option.isSome_iff_exists.2 ⟨slot, held⟩,
    counted, by exact_mod_cast timed, carried,
    Limiter.drive_cons (step_setRate s store _ "k" (by norm_num)) (Limiter.drive_cons taken rfl),
    (left'.shows (lasts _ (by omega))).1, by norm_num⟩

end Change

end SharedLeakyBucket

end Throttle
