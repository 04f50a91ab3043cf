import Throttle.Proofs.Shared.Burst

/-!
# The expiry of a shared leaky bucket

A key of a shared leaky bucket expires, and a request that comes later finds a new bucket. Nothing
is gained by that: by the time a key expires, what it held has drained. So every request that passes
would have passed as well over a store that keeps its keys for good. There the bucket would be no
fuller, since it goes on draining below zero while it stands empty.

## Main definitions

* `Store.persist`: a key is kept for good
* `Store.everlasting`: what a call finds that is made to a store that keeps all keys for good
* `SharedLeakyBucket.pours`: requests on any keys
* `SharedLeakyBucket.NoFuller`: every bucket of one store is no fuller than that of another

## Main results

* `SharedLeakyBucket.Stays.ready`: what a later request finds in a bucket that is kept for good
* `SharedLeakyBucket.NoFuller.take`: a request that passes also passes in the store whose buckets
  are no fuller
* `SharedLeakyBucket.expiry_admits_no_more`: **no request passes thanks to an expiry**
-/

namespace Throttle

/-- A sequence of calls in two parts: the second one starts from the states after the first. -/
theorem Limiter.run_append {α σ : Type} [Arithmetic α] (start : Limiter α × σ)
    (calls later : List (Context σ × Call α)) :
    run start (calls ++ later) = (run start calls).bind fun (mid, outcomes) =>
      (run mid later).map fun (last, outcomes') => (last, outcomes ++ outcomes') := by
  induction calls generalizing start with
  | nil =>
    simp only [List.nil_append, run, Except.bind]
    cases run start later <;> rfl
  | cons first calls ih =>
    rw [List.cons_append, run, run]
    cases step first.1 start first.2 with
    | error fault => rfl
    | ok next =>
      simp only [ih]
      cases run next.1 calls with
      | error fault => rfl
      | ok mid =>
        simp only [Except.bind, Except.map]
        cases run mid.1 later <;> rfl

namespace Store

/-- The store in which a key is kept for good. -/
def persist (s : Store) (key : String) : Store :=
  match s.slots.get? key with
  | some slot => { s with slots := s.slots.insert key { slot with expiresAt := none } }
  | none => s

/-- What a call at `now` finds that is made, where there is a scheduler, to a store in memory that
keeps for good every key of a script. -/
def everlasting (α : Type) [Arithmetic α] (now : Instant) : Context Store where
  executor :=
    { eval script keys args store :=
        let (store, outcome) := store.eval α now script keys args
        .now (keys.foldl persist store) outcome
      expire _ _ store := (store, .ok ()) }
  now := now
  scheduler := true

/-- A script answers as over a store whose keys expire, and its key is kept for good. -/
theorem eval_everlasting (α : Type) [Arithmetic α] (now : Instant) (limit : Option Span)
    (script : Script) (key : String) (args : List String) (store : Store) :
    (everlasting α now).eval limit script key args store =
      ((context α now).eval limit script key args store).map fun (store, reply) =>
        (store.persist key, reply) := by
  rw [eval_context, Context.eval_of_scheduler rfl, Evaluation.within_of_instant rfl]
  rfl

end Store

namespace SharedLeakyBucket

variable {c : LeakyBucket.Config ℚ} {store lasting : Store} {key : String} {now later : Instant}

/-! ## What a request leaves -/

/-- What a request leaves shows right after it. -/
theorem Rests.shows {level : ℚ} (r : Rests c store key level now) :
    (store.hget now key "count").bind Exact.ofText? = some level ∧
      (store.hget now key "last_time").bind Exact.ofText? = some (now.seconds : ℚ) := by
  obtain ⟨fields, held, reads⟩ := r.hash
  have filtered := Store.get?_live store now key
  rw [held, Option.filter_some, if_pos (isLive_of_minute c _ (by omega))] at filtered
  rw [hget_of_hash filtered rfl, hget_of_hash filtered rfl]
  exact ⟨reads.count, reads.lastTime⟩

/-! ## A bucket that is kept for good -/

/-- What a request at `now` leaves in a store that keeps its key for good. -/
structure Stays (c : LeakyBucket.Config ℚ) (store : Store) (key : String) (level : ℚ)
    (now : Instant) : Prop where
  available : store.available = true
  hash : ∃ fields, store.slots.get? key = some ⟨.hash fields, none⟩ ∧
    Reads fields level now.seconds
  atMost : level ≤ c.volume

/-- A later request finds the level that was left, less what has drained since. -/
theorem Stays.ready {level : ℚ} (s : Stays c store key level now) (positive : 0 < c.rate)
    (order : now ≤ later) :
    Ready c store key later ∧
      found c.rate store key later = level - c.rate * (later.seconds - now.seconds) := by
  obtain ⟨fields, held, reads⟩ := s.hash
  have kept : Slot.isLive ⟨.hash fields, none⟩ later = true := rfl
  have live : (store.live later).get? key = some ⟨.hash fields, none⟩ := by
    rw [Store.get?_live, held, Option.filter_some, if_pos kept]
  have finds := found_of_reads c.rate live rfl reads
  have forward : (now.seconds : ℚ) ≤ later.seconds := by
    rw [Instant.le_def] at order
    exact_mod_cast Int.ediv_le_ediv (by decide) order
  have drained : 0 ≤ c.rate * ((later.seconds : ℚ) - now.seconds) :=
    mul_nonneg positive.le (sub_nonneg.2 forward)
  have atMost := s.atMost
  exact ⟨⟨s.available, .inr ⟨_, _, _, _, live, rfl, reads⟩, by rw [finds]; linarith⟩, finds⟩

/-! ## Two stores side by side -/

/-- What shows of a key decides on its requests. -/
theorem Ready.of_eq {store' : Store} (ready : Ready c store key later)
    (available : store'.available = true)
    (same : (store'.live later).get? key = (store.live later).get? key) :
    Ready c store' key later ∧ found c.rate store' key later = found c.rate store key later := by
  have finds : found c.rate store' key later = found c.rate store key later := by
    simp only [found, Store.hget, Store.slot?, same]
  exact ⟨⟨available, same ▸ ready.hash, finds ▸ ready.atMost⟩, finds⟩

/-- From `now` on, every bucket of the store `lasting` is no fuller than that of `store`. -/
structure NoFuller (c : LeakyBucket.Config ℚ) (now : Instant) (lasting store : Store) : Prop where
  ready : ∀ key later, now ≤ later → Ready c store key later
  lastingReady : ∀ key later, now ≤ later → Ready c lasting key later
  found_le : ∀ key later, now ≤ later →
    found c.rate lasting key later ≤ found c.rate store key later

theorem NoFuller.start (c : LeakyBucket.Config ℚ) (now : Instant) : NoFuller c now ∅ ∅ where
  ready _ _ _ := ready_of_absent rfl rfl
  lastingReady _ _ _ := ready_of_absent rfl rfl
  found_le _ _ _ := le_refl _

theorem NoFuller.mono (h : NoFuller c now lasting store) (order : now ≤ later) :
    NoFuller c later lasting store where
  ready key t after := h.ready key t (Int.le_trans order after)
  lastingReady key t after := h.lastingReady key t (Int.le_trans order after)
  found_le key t after := h.found_le key t (Int.le_trans order after)

/-- What fits into a bucket fits into one that is no fuller. -/
theorem fits_of_le {volume n : ℕ} {a b : ℚ} (le : a ≤ b) (fit : fits volume b n = true) :
    fits volume a n = true := by
  rw [fits, decide_eq_true_eq] at fit ⊢
  exact (max_le_max_right 0 (add_le_add_left le _)).trans fit

/-- A request leaves no more in a bucket that is no fuller. -/
theorem levelAfter_le_levelAfter {a b : ℚ} (le : a ≤ b) (volume n : ℕ) :
    levelAfter volume a n ≤ levelAfter volume b n := by
  cases fit : fits volume b n with
  | true =>
    rw [levelAfter, levelAfter, if_pos (fits_of_le le fit), if_pos fit]
    exact max_le_max_right 0 (add_le_add_left le _)
  | false =>
    rw [levelAfter.eq_def volume b, fit]
    exact levelAfter_le volume a n

/-! ## A request over either store -/

/-- A store after a request: the other keys show as before. -/
theorem get?_live_insert {slot : Slot} {other : String} (different : other ≠ key)
    (order : now ≤ later) :
    (Store.live ⟨(store.live now).insert key slot, true⟩ later).get? other =
      (store.live later).get? other := by
  rw [Store.get?_live, Table.get?_insert, if_neg different.symm,
    ← Store.get?_live_purge store order, Store.get?_live (store.purge now), Store.purge]

variable {l : SharedLeakyBucket ℚ}

/-- A request over a store whose keys expire. -/
theorem exists_take_expiring (params : l.keyed.state key = c) (ready : Ready c store key now)
    (n : ℕ) :
    ∃ store', Limiter.step (Store.context ℚ now) (.sharedLeakyBucket l, store) (.take key n) =
        .ok ((.sharedLeakyBucket { l with keyed := (l.keyed.obtain key).1 }, store'),
          .ok (some (fits c.volume (found c.rate store key now) n))) ∧
      Rests c store' key (levelAfter c.volume (found c.rate store key now) n) now ∧
      ∀ other ≠ key, ∀ later, now ≤ later →
        (store'.live later).get? other = (store.live later).get? other := by
  obtain ⟨fields, poured, reads, -⟩ :=
    exists_pour { l with keyed := (l.keyed.obtain key).1 } c ready.available ready.hash n
  refine ⟨_, ?_, ⟨rfl, ⟨fields, by rw [Table.get?_insert, if_pos rfl], reads⟩, levelAfter_le ..⟩,
    fun other different later order => get?_live_insert different order⟩
  simp only [Limiter.step, Limiter.take?, allow, Keyed.obtain_snd, params, poured]
  rfl

/-- A request pours as much into a bucket that is kept for good, and it is kept. -/
theorem pour_everlasting (l : SharedLeakyBucket ℚ) (n : ℕ) :
    l.pour (Store.everlasting ℚ now) key c n store =
      (l.pour (Store.context ℚ now) key c n store).map fun (store, outcome) =>
        (store.persist key, outcome) := by
  rw [pour, pour, Store.eval_everlasting]
  change Except.map _ ((Context.eval _ _ _ _ (arguments c now n) _).map _) = _
  rw [Store.now_context]
  cases (Store.context ℚ now).eval l.timeout .leakyBucket key (arguments c now n) store <;> rfl

/-- A request over a store that keeps its keys for good. -/
theorem exists_take_everlasting (params : l.keyed.state key = c) (ready : Ready c lasting key now)
    (n : ℕ) :
    ∃ lasting', Limiter.step (Store.everlasting ℚ now) (.sharedLeakyBucket l, lasting)
        (.take key n) =
        .ok ((.sharedLeakyBucket { l with keyed := (l.keyed.obtain key).1 }, lasting'),
          .ok (some (fits c.volume (found c.rate lasting key now) n))) ∧
      Stays c lasting' key (levelAfter c.volume (found c.rate lasting key now) n) now ∧
      ∀ other ≠ key, ∀ later, now ≤ later →
        (lasting'.live later).get? other = (lasting.live later).get? other := by
  obtain ⟨fields, poured, reads, -⟩ :=
    exists_pour { l with keyed := (l.keyed.obtain key).1 } c ready.available ready.hash n
  set slot : Slot := ⟨.hash fields, now.after? (Store.bucketLifetime (c.volume : ℚ) c.rate)⟩
  have kept : Store.persist ⟨(lasting.live now).insert key slot, true⟩ key =
      ⟨(lasting.live now).insert key ⟨.hash fields, none⟩, true⟩ := by
    rw [Store.persist, Table.get?_insert, if_pos rfl]
    simp only [Table.insert_insert, slot]
  have persisted := @pour_everlasting c lasting key now { l with keyed := (l.keyed.obtain key).1 } n
  rw [poured, Except.map] at persisted
  dsimp only at persisted
  rw [kept] at persisted
  refine ⟨_, ?_, ⟨rfl, ⟨fields, by rw [Table.get?_insert, if_pos rfl], reads⟩, levelAfter_le ..⟩,
    fun other different later order => get?_live_insert different order⟩
  simp only [Limiter.step, Limiter.take?, allow, Keyed.obtain_snd, params, persisted]
  rfl

/-! ## Runs over both stores -/

/-- Requests of some units on some keys at some times, each made in its world. -/
def pours (world : Instant → Context Store) (requests : List (Instant × String × ℕ)) :
    List (Context Store × Call ℚ) :=
  requests.map fun r => (world r.1, .take r.2.1 r.2.2)

/-- A request that passes also passes in the store whose buckets are no fuller, and they are no
fuller afterwards. -/
theorem NoFuller.take (h : NoFuller c now lasting store) (positive : 0 < c.rate)
    (params : ∀ key, l.keyed.state key = c) {t : Instant} (order : now ≤ t) (key : String) (n : ℕ) :
    ∃ l' store' lasting' passed passed',
      Limiter.step (Store.context ℚ t) (.sharedLeakyBucket l, store) (.take key n) =
        .ok ((.sharedLeakyBucket l', store'), .ok (some passed)) ∧
      Limiter.step (Store.everlasting ℚ t) (.sharedLeakyBucket l, lasting) (.take key n) =
        .ok ((.sharedLeakyBucket l', lasting'), .ok (some passed')) ∧
      (passed = true → passed' = true) ∧ (∀ key, l'.keyed.state key = c) ∧
      NoFuller c t lasting' store' ∧ (∃ level, Rests c store' key level t) ∧
      ∀ other ≠ key, ∀ later, t ≤ later →
        (store'.live later).get? other = (store.live later).get? other := by
  have finds := h.found_le key t order
  obtain ⟨store', stepped, rests, others⟩ :=
    exists_take_expiring (params key) (h.ready key t order) n
  obtain ⟨lasting', stepped', stays, others'⟩ :=
    exists_take_everlasting (params key) (h.lastingReady key t order) n
  refine ⟨_, store', lasting', _, _, stepped, stepped', fits_of_le finds,
    fun other => (Keyed.state_obtain ..).trans (params other), ?_, ⟨_, rests⟩, others⟩
  have levels := levelAfter_le_levelAfter finds c.volume n
  constructor
  · intro other later after
    by_cases same : other = key
    · subst same
      exact (rests.ready positive after).1
    · exact ((h.ready other later (Int.le_trans order after)).of_eq rests.available
        (others other same later after)).1
  · intro other later after
    by_cases same : other = key
    · subst same
      exact (stays.ready positive after).1
    · exact ((h.lastingReady other later (Int.le_trans order after)).of_eq stays.available
        (others' other same later after)).1
  · intro other later after
    by_cases same : other = key
    · subst same
      have lost := (rests.ready positive after).2
      rw [(stays.ready positive after).2]
      linarith
    · have before := Int.le_trans order after
      rw [((h.lastingReady other later before).of_eq stays.available
          (others' other same later after)).2,
        ((h.ready other later before).of_eq rests.available (others other same later after)).2]
      exact h.found_le other later before

/-- **Requests over both stores**, in the order of time, are answered. One that passes also passes
in the store whose buckets are no fuller, and a key that none of them is about shows as before. -/
theorem NoFuller.run (h : NoFuller c now lasting store) (positive : 0 < c.rate)
    (params : ∀ key, l.keyed.state key = c) {requests : List (Instant × String × ℕ)}
    (after : ∀ r ∈ requests, now ≤ r.1) (ordered : requests.Pairwise fun a b => a.1 ≤ b.1) :
    ∃ l' store' lasting' passed passed',
      Limiter.run (.sharedLeakyBucket l, store) (pours (Store.context ℚ) requests) =
        .ok ((.sharedLeakyBucket l', store'), outcomes passed) ∧
      Limiter.run (.sharedLeakyBucket l, lasting) (pours (Store.everlasting ℚ) requests) =
        .ok ((.sharedLeakyBucket l', lasting'), outcomes passed') ∧
      List.Forall₂ (fun p p' => p = true → p' = true) passed passed' ∧
      (∀ key, l'.keyed.state key = c) ∧
      (∀ t, now ≤ t → (∀ r ∈ requests, r.1 ≤ t) → NoFuller c t lasting' store') ∧
      ∀ key, (∀ r ∈ requests, r.2.1 ≠ key) → ∀ later, (∀ r ∈ requests, r.1 ≤ later) →
        (store'.live later).get? key = (store.live later).get? key := by
  induction requests generalizing l store lasting now with
  | nil =>
    exact ⟨l, store, lasting, [], [], rfl, rfl, .nil, params, fun t order _ => h.mono order,
      fun _ _ _ _ => rfl⟩
  | cons r rest ih =>
    obtain ⟨t, key, n⟩ := r
    obtain ⟨latest, ordered⟩ := List.pairwise_cons.1 ordered
    obtain ⟨l₁, store₁, lasting₁, p, p', stepped, stepped', passes, params₁, h₁, -, others⟩ :=
      h.take positive params (after _ (List.mem_cons_self ..)) key n
    obtain ⟨l', store', lasting', passed, passed', ran, ran', all, params', h', same⟩ :=
      ih h₁ params₁ latest ordered
    refine ⟨l', store', lasting', p :: passed, p' :: passed', ?_, ?_, .cons passes all, params',
      fun u _ seen => h' u (seen _ (List.mem_cons_self ..))
        fun r member => seen r (List.mem_cons_of_mem _ member),
      fun other different later seen => ?_⟩
    · rw [pours, List.map_cons, Limiter.run, stepped]
      dsimp only
      rw [← pours, ran]
      rfl
    · rw [pours, List.map_cons, Limiter.run, stepped']
      dsimp only
      rw [← pours, ran']
      rfl
    · rw [same other (fun r member => different r (List.mem_cons_of_mem _ member)) later
          fun r member => seen r (List.mem_cons_of_mem _ member),
        others other (different _ (List.mem_cons_self ..)).symm later
          (seen _ (List.mem_cons_self ..))]

/-- The last request of a key leaves it as requests do, and the requests of other keys that follow
leave it alone. -/
theorem exists_run_of_last_request (positive : 0 < c.rate)
    (params : ∀ key, l.keyed.state key = c) {start : Instant}
    {earlier others : List (Instant × String × ℕ)} {n : ℕ}
    (after : ∀ r ∈ earlier ++ (now, key, n) :: others, start ≤ r.1)
    (ordered : (earlier ++ (now, key, n) :: others).Pairwise fun a b => a.1 ≤ b.1)
    (different : ∀ r ∈ others, r.2.1 ≠ key) :
    ∃ l₁ store₁ results₁ l₂ store₂ results₂,
      Limiter.run (.sharedLeakyBucket l, ∅)
        (pours (Store.context ℚ) (earlier ++ [(now, key, n)])) =
          .ok ((.sharedLeakyBucket l₁, store₁), results₁) ∧
      (∃ level, Rests c store₁ key level now) ∧
      Limiter.run (.sharedLeakyBucket l, ∅)
        (pours (Store.context ℚ) (earlier ++ (now, key, n) :: others)) =
          .ok ((.sharedLeakyBucket l₂, store₂), results₂) ∧
      ∀ later, (∀ r ∈ others, r.1 ≤ later) →
        (store₂.live later).get? key = (store₁.live later).get? key := by
  obtain ⟨ordered₀, ordered₁, before⟩ := List.pairwise_append.1 ordered
  obtain ⟨latest, ordered₁⟩ := List.pairwise_cons.1 ordered₁
  -- The run in three parts: the requests before this one, this one, and the others.
  obtain ⟨l₀, store₀, _, passed₀, -, ran₀, -, -, params₀, h₀, -⟩ := (NoFuller.start c start).run
    positive params (fun r member => after r (List.mem_append_left _ member)) ordered₀
  obtain ⟨l₁, store₁, _, p, -, stepped, -, -, params₁, h₁, rests, -⟩ :=
    (h₀ now (after (now, key, n) (by simp)) fun r member =>
      before r member _ (List.mem_cons_self ..)).take positive params₀ (Int.le_refl now.nanos) key n
  obtain ⟨l₂, store₂, -, passed₂, -, ran₂, -, -, -, -, same⟩ :=
    h₁.run positive params₁ latest ordered₁
  have upTo : Limiter.run (.sharedLeakyBucket l, ∅)
      (pours (Store.context ℚ) (earlier ++ [(now, key, n)])) =
        .ok ((.sharedLeakyBucket l₁, store₁), outcomes passed₀ ++ [.ok (some p)]) := by
    rw [pours, List.map_append, ← pours, List.map_singleton, Limiter.run_append_singleton, ran₀]
    simp only [Except.bind, stepped, Except.map]
  refine ⟨l₁, store₁, _, l₂, store₂, outcomes passed₀ ++ [.ok (some p)] ++ outcomes passed₂, upTo,
    rests, ?_, same key different⟩
  rw [List.append_cons, pours, List.map_append, ← pours, ← pours, Limiter.run_append, upTo]
  simp only [Except.bind, ran₂, Except.map]

/-- **No request passes thanks to an expiry.** Over a store whose keys expire, requests on a
non-decreasing clock are answered as over a store that keeps its keys for good, save that some are
rejected which pass there. And whenever a key has expired, what it held after its last request has
drained. -/
theorem expiry_admits_no_more {timeout : Option Span} (created : create? c timeout = .ok l)
    {requests : List (Instant × String × ℕ)} (ordered : requests.Pairwise fun a b => a.1 ≤ b.1) :
    ∃ last last' passed passed',
      Limiter.run (.sharedLeakyBucket l, ∅) (pours (Store.context ℚ) requests) =
        .ok (last, outcomes passed) ∧
      Limiter.run (.sharedLeakyBucket l, ∅) (pours (Store.everlasting ℚ) requests) =
        .ok (last', outcomes passed') ∧
      List.Forall₂ (fun p p' => p = true → p' = true) passed passed' ∧
      ∀ earlier now key n others, requests = earlier ++ (now, key, n) :: others →
        (∀ r ∈ others, r.2.1 ≠ key) → ∀ later, (∀ r ∈ requests, r.1 ≤ later) →
        last.2.exists? later key = false →
        ∃ left results level,
          Limiter.run (.sharedLeakyBucket l, ∅)
            (pours (Store.context ℚ) (earlier ++ [(now, key, n)])) = .ok (left, results) ∧
          (left.2.hget now key "count").bind Exact.ofText? = some level ∧
          (left.2.hget now key "last_time").bind Exact.ofText? = some (now.seconds : ℚ) ∧
          level - c.rate * (later.seconds - now.seconds) ≤ 0 := by
  obtain ⟨start, after⟩ : ∃ start, ∀ r ∈ requests, start ≤ r.1 := by
    cases requests with
    | nil => exact ⟨default, fun _ none => absurd none List.not_mem_nil⟩
    | cons r rest =>
      exact ⟨r.1, List.forall_mem_cons.2 ⟨Int.le_refl _, (List.pairwise_cons.1 ordered).1⟩⟩
  obtain ⟨keyed, made, rfl⟩ := exists_of_map_eq_ok created
  have positive : 0 < c.rate := Exact.checkRate_eq_ok_iff.1
    (LeakyBucket.Config.validate_eq_ok_iff.1 (Keyed.valid_of_create? made).1).1
  have params : ∀ key, keyed.state key = c := Keyed.state_of_create? made
  obtain ⟨l', store', lasting', passed, passed', ran, ran', passes, -⟩ :=
    (NoFuller.start c start).run (l := ⟨keyed, timeout⟩) positive params after ordered
  refine ⟨_, _, passed, passed', ran, ran', passes, ?_⟩
  rintro earlier now key n others rfl different later seen expired
  obtain ⟨l₁, store₁, results, l₂, store₂, _, upTo, ⟨level, rests⟩, whole, same⟩ :=
    exists_run_of_last_request (l := ⟨keyed, timeout⟩) positive params after ordered different
  obtain rfl : store' = store₂ :=
    congrArg (fun last => last.1.2) (Except.ok.inj (ran.symm.trans whole))
  have gone : (store₁.live later).get? key = none := by
    rw [← same later fun r member => seen r (by simp [member])]
    exact Option.isSome_eq_false_iff.1 expired |> Option.isNone_iff_eq_none.1
  exact ⟨_, results, level, upTo, rests.shows.1, rests.shows.2, rests.drained positive gone⟩

/-- A bucket of ten units that drains one a second is filled, and again two minutes later, when its
key has expired. -/
theorem refilled_after_expiry :
    ∃ l last last' passed passed', create? (⟨1, 10⟩ : LeakyBucket.Config ℚ) none = .ok l ∧
      Limiter.run (.sharedLeakyBucket l, ∅) (pours (Store.context ℚ)
        [(.ofParts 1700000000 0, "a", 10), (.ofParts 1700000120 0, "a", 10)]) =
          .ok (last, outcomes passed) ∧
      Limiter.run (.sharedLeakyBucket l, ∅) (pours (Store.everlasting ℚ)
        [(.ofParts 1700000000 0, "a", 10), (.ofParts 1700000120 0, "a", 10)]) =
          .ok (last', outcomes passed') ∧
      List.Forall₂ (fun p p' => p = true → p' = true) passed passed' := by
  obtain ⟨l, created⟩ : ∃ l, create? (⟨1, 10⟩ : LeakyBucket.Config ℚ) none = .ok l := ⟨_, rfl⟩
  have ordered : ([(.ofParts 1700000000 0, "a", 10), (.ofParts 1700000120 0, "a", 10)] :
      List (Instant × String × ℕ)).Pairwise fun a b => a.1 ≤ b.1 := by decide
  obtain ⟨last, last', passed, passed', ran, ran', passes, -⟩ :=
    expiry_admits_no_more created ordered
  exact ⟨l, last, last', passed, passed', created, ran, ran', passes⟩

end SharedLeakyBucket

end Throttle
