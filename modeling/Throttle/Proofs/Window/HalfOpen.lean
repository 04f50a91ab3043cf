import Throttle.Proofs.Window.Exactness
import Throttle.Window.Sliding

/-!
# The sliding window is exact for a half-open window

A sliding window looks at the oldest instant of its queue only, and at most one instant leaves per
request, so that stale instants stay queued. A list of every accepted instant is kept beside it. For
requests in the order of time the queue holds the latest of them, as many as the limit allows. The
oldest of these has left the window exactly if fewer accepted instants than the limit lie in it.

An instant that is as old as the window is long lies outside. A sliding log counts it, so that the
two decide alike if the log's window is a nanosecond shorter.

## Main definitions

* `SlidingWindow.recent`: the number of instants in a half-open window
* `SlidingWindow.run`: a window after a sequence of requests, with every accepted instant
* `SlidingWindow.Queues`: the queue of a window holds the latest accepted instants

## Main results

* `SlidingWindow.Queues.allow_snd`: a window that does so answers as all accepted instants say
* `SlidingWindow.queues_run`: a window does so in every run
* `SlidingWindow.exists_run_slidingLog`: a sliding log accepts the same requests
* `SlidingWindow.allow_eq_decide_recent_lt`: the decisions of a window
-/

namespace Throttle

namespace SlidingWindow

/-- The number of instants less than `length` nanoseconds before `now`. -/
def recent (accepted : List Instant) (length : Int) (now : Instant) : Nat :=
  accepted.countP fun t => Decidable.decide (now.nanos - t.nanos < length)

/-- A window with every instant that it has accepted, after a request. -/
def note (s : SlidingWindow × List Instant) (now : Instant) : SlidingWindow × List Instant :=
  let (w, passed) := s.1.allow now
  (w, if passed then s.2 ++ [now] else s.2)

/-- A new window after requests at the given times, with every instant that it has accepted. -/
def run (c : Config) (times : List Instant) : SlidingWindow × List Instant :=
  times.foldl note (start c, [])

theorem run_concat (c : Config) (times : List Instant) (now : Instant) :
    run c (times ++ [now]) = note (run c times) now := by
  simp [run]

/-! ## The queue -/

/-- The queue of a window holds the latest accepted instants, as many as the limit allows, and these
are in the order of time. -/
structure Queues (c : Config) (w : SlidingWindow) (accepted : List Instant) : Prop where
  limit : w.limit = c.limit
  length : w.length = c.window.nanos
  queue : w.queue = accepted.drop (accepted.length - c.limit)
  ordered : accepted.Pairwise (· ≤ ·)

theorem queues_start (c : Config) : Queues c (start c) [] where
  limit := rfl
  length := rfl
  queue := List.drop_nil.symm
  ordered := .nil

namespace Queues

variable {c : Config} {w : SlidingWindow} {accepted : List Instant}

/-- A queue without room has an oldest instant, and accepted instants before it that it has let
go. -/
theorem exists_oldest (q : Queues c w accepted) (positive : 0 < c.limit)
    (full : c.limit ≤ accepted.length) :
    ∃ gone oldest newer, accepted = gone ++ oldest :: newer ∧ w.queue = oldest :: newer ∧
      newer.length + 1 = c.limit := by
  have size : (accepted.drop (accepted.length - c.limit)).length = c.limit := by
    rw [List.length_drop]
    omega
  have split := (List.take_append_drop (accepted.length - c.limit) accepted).symm
  rw [← q.queue] at size split
  cases held : w.queue with
  | nil =>
    rw [held, List.length_nil] at size
    omega
  | cons oldest newer =>
    rw [held] at size split
    exact ⟨_, oldest, newer, split, rfl, by simpa using size⟩

/-- **A window whose queue holds the latest accepted instants answers as all of them say.** -/
theorem allow_snd (q : Queues c w accepted) (positive : 0 < c.limit) (now : Instant) :
    (w.allow now).2 = Decidable.decide (recent accepted c.window.nanos now < c.limit) := by
  by_cases full : c.limit ≤ accepted.length
  · obtain ⟨gone, oldest, newer, rfl, held, size⟩ := q.exists_oldest positive full
    obtain ⟨-, later, before⟩ := List.pairwise_append.1 q.ordered
    have counted : recent (gone ++ oldest :: newer) c.window.nanos now =
        recent gone c.window.nanos now + recent (oldest :: newer) c.window.nanos now :=
      List.countP_append ..
    have noRoom : ¬w.queue.length < w.limit := by
      rw [held, q.limit, List.length_cons]
      omega
    rw [allow, if_neg noRoom, held, counted]
    dsimp only
    rw [q.length]
    split
    · rename_i fresh
      -- All that is queued is as recent as the oldest, and alone reaches the limit.
      have all : recent (oldest :: newer) c.window.nanos now = (oldest :: newer).length := by
        refine List.countP_eq_length.2 fun t member => decide_eq_true ?_
        rcases List.mem_cons.1 member with rfl | member
        · exact fresh
        · have := Instant.le_def.1 ((List.pairwise_cons.1 later).1 t member)
          omega
      rw [all, List.length_cons, size]
      exact (decide_eq_false (by omega)).symm
    · rename_i stale
      -- What was let go is no younger than the oldest, and the newer ones leave room.
      have none : recent gone c.window.nanos now = 0 := by
        refine List.countP_eq_zero.2 fun t member => ?_
        have := Instant.le_def.1 (before t member oldest List.mem_cons_self)
        rw [decide_eq_true_eq]
        omega
      have few : recent (oldest :: newer) c.window.nanos now ≤ newer.length := by
        rw [recent, List.countP_cons_of_neg (by simpa using stale)]
        exact List.countP_le_length
      rw [none]
      exact (decide_eq_true (by omega)).symm
  · -- Fewer instants than the limit have been accepted at all.
    have all : w.queue = accepted := by
      rw [q.queue, Nat.sub_eq_zero_of_le (by omega), List.drop_zero]
    have few : recent accepted c.window.nanos now ≤ accepted.length := List.countP_le_length
    rw [allow, if_pos (by rw [all, q.limit]; omega)]
    exact (decide_eq_true (by omega)).symm

/-- An accepted instant comes last in the queue, and the queue lets its oldest one go if it is
full. -/
theorem queue_allow (q : Queues c w accepted) (positive : 0 < c.limit) (now : Instant) :
    (w.allow now).1.queue =
      if (w.allow now).2 then (accepted ++ [now]).drop (accepted.length + 1 - c.limit)
      else w.queue := by
  by_cases full : c.limit ≤ accepted.length
  · obtain ⟨gone, oldest, newer, rfl, held, size⟩ := q.exists_oldest positive full
    have noRoom : ¬w.queue.length < w.limit := by
      rw [held, q.limit, List.length_cons]
      omega
    have split : (gone ++ oldest :: newer).length + 1 - c.limit = (gone ++ [oldest]).length := by
      simp only [List.length_append, List.length_cons, List.length_nil]
      omega
    have rest : (gone ++ oldest :: newer) ++ [now] = (gone ++ [oldest]) ++ (newer ++ [now]) := by
      simp
    rw [allow, if_neg noRoom, held]
    dsimp only
    split
    · rw [if_neg Bool.false_ne_true, held]
    · rw [if_pos rfl, split, rest, List.drop_left]
  · have all : w.queue = accepted := by
      rw [q.queue, Nat.sub_eq_zero_of_le (by omega), List.drop_zero]
    rw [allow, if_pos (by rw [all, q.limit]; omega), if_pos rfl,
      Nat.sub_eq_zero_of_le (by omega), List.drop_zero, all]

/-- A request that is not older than the accepted ones keeps the latest of them queued. -/
theorem note (q : Queues c w accepted) (positive : 0 < c.limit) {now : Instant}
    (latest : ∀ t ∈ accepted, t ≤ now) :
    Queues c (SlidingWindow.note (w, accepted) now).1
      (SlidingWindow.note (w, accepted) now).2 := by
  obtain ⟨limit, length⟩ := parameters_allow w now
  have queue := q.queue_allow positive now
  simp only [SlidingWindow.note]
  cases passed : (w.allow now).2 with
  | false =>
    rw [passed, if_neg Bool.false_ne_true] at queue
    rw [if_neg Bool.false_ne_true]
    exact ⟨limit.trans q.limit, length.trans q.length, queue.trans q.queue, q.ordered⟩
  | true =>
    rw [passed, if_pos rfl] at queue
    rw [if_pos rfl]
    refine ⟨limit.trans q.limit, length.trans q.length, ?_, ?_⟩
    · rw [queue, List.length_append, List.length_singleton]
    · refine List.pairwise_append.2
        ⟨q.ordered, List.pairwise_singleton _ _, fun t member s last => ?_⟩
      rw [List.mem_singleton.1 last]
      exact latest t member

end Queues

/-! ## Runs -/

section Runs

variable {c : Config} {times : List Instant} {now : Instant}

/-- What was accepted is among the requests. -/
theorem mem_of_mem_accepted {t : Instant} (h : t ∈ (run c times).2) : t ∈ times := by
  induction times using List.reverseRecOn with
  | nil => exact h
  | append_singleton times now ih =>
    rw [run_concat, note] at h
    dsimp only at h
    split at h
    · rcases List.mem_append.1 h with old | new
      · exact List.mem_append_left _ (ih old)
      · exact List.mem_append_right _ new
    · exact List.mem_append_left _ (ih h)

/-- The queue holds the latest accepted instants after every sequence of requests in the order of
time. -/
theorem queues_run (positive : 0 < c.limit) (ordered : times.Pairwise (· ≤ ·)) :
    Queues c (run c times).1 (run c times).2 := by
  induction times using List.reverseRecOn with
  | nil => exact queues_start c
  | append_singleton times now ih =>
    obtain ⟨before, -, latest⟩ := List.pairwise_append.1 ordered
    rw [run_concat]
    exact (ih before).note positive fun t member =>
      latest t (mem_of_mem_accepted member) now (List.mem_singleton_self _)

/-! ## A log with a closed window -/

/-- The parameters of a log whose window is a nanosecond shorter. -/
def shorter (c : Config) (fixedWindow : Option FixedWindow) : SlidingLog.Config :=
  ⟨c.limit, ⟨c.window.nanos - 1⟩, fixedWindow⟩

/-- Trailing requests of one unit at the given times. -/
def singles (times : List Instant) : List SlidingLog.Action :=
  times.map fun now => .allow now 1 {}

/-- A request at `now` can be counted in the window: its left boundary can be represented. -/
structure Reaches (window : Span) (now : Instant) : Prop where
  readable : now.Representable
  boundary : (now.shift? (-window.nanos)).isSome

/-- A shorter window has a left boundary if a longer one has. -/
theorem Reaches.shift?_eq (r : Reaches c.window now) :
    now.shift? (-((c.window.nanos - 1 : Nat) : Int)) =
      some ⟨now.nanos - ((c.window.nanos - 1 : Nat) : Int)⟩ := by
  obtain ⟨left, boundary⟩ := Option.isSome_iff_exists.1 r.boundary
  obtain ⟨moved, readable⟩ := Instant.shift?_eq_some_iff.1 boundary
  refine Instant.shift?_eq_some_iff.2 ⟨Int.sub_eq_add_neg, ?_, ?_⟩
  · have low := readable.1
    simp only [Instant.le_def] at low ⊢
    omega
  · have high := r.readable.2
    simp only [Instant.le_def] at high ⊢
    omega

/-- A closed window of requests of one unit holds as many units as the half-open window that is a
nanosecond longer holds instants. -/
theorem unitsWithin_eq_recent {accepted : List Instant} {length : Int} {now left : Instant}
    (boundary : left.nanos = now.nanos - (length - 1)) (latest : ∀ t ∈ accepted, t ≤ now) :
    SlidingLog.unitsWithin (accepted.map fun t => (t, 1)) left now =
      recent accepted length now := by
  have ordered : ∀ e ∈ accepted.map fun t => (t, 1), e.1 ≤ now := by
    intro e member
    obtain ⟨t, found, rfl⟩ := List.mem_map.1 member
    exact latest t found
  rw [SlidingLog.unitsWithin, SlidingLog.within_of_le ordered, recent,
    List.countP_eq_length_filter, SlidingLog.since, List.filter_map]
  -- A record counts for one unit, and an instant is in the one window if it is in the other.
  have single (l : List Instant) : ∀ e ∈ l.map fun t => (t, 1), e.2 = 1 := by
    intro e member
    obtain ⟨t, -, rfl⟩ := List.mem_map.1 member
    rfl
  rw [SlidingLog.units_eq_length (single _), List.length_map]
  congr 1
  refine List.filter_congr fun t _ => ?_
  simp only [Function.comp_apply, decide_eq_decide, Instant.le_def]
  omega

/-- A log whose history is that of the window makes the same decision. -/
theorem exists_allow_slidingLog (valid : c.validate = .ok ()) (small : c.limit < 2 ^ 64)
    (long : 2 ≤ c.window.nanos) {fixedWindow : Option FixedWindow} {l : SlidingLog}
    {h : SlidingLog.History}
    (ran : SlidingLog.run (shorter c fixedWindow) (singles times) = .ok (l, h))
    (same : h.accepted = (run c times).2.map fun t => (t, 1))
    (ordered : (times ++ [now]).Pairwise (· ≤ ·)) (reaches : Reaches c.window now) :
    ∃ l', l.allow now 1 {} = .ok (l', .ok ((run c times).1.allow now).2) := by
  obtain ⟨positive, -, atMost⟩ := Config.validate_eq_ok_iff.1 valid
  obtain ⟨before, -, latest⟩ := List.pairwise_append.1 ordered
  have validShorter : (shorter c fixedWindow).validate = .ok () :=
    SlidingLog.Config.validate_eq_ok_iff.2
      ⟨positive, Nat.sub_pos_of_lt long, (Nat.sub_le _ _).trans atMost⟩
  have allTimes : (singles times).filterMap SlidingLog.Action.time? = times := by
    rw [singles, List.filterMap_map]
    exact List.filterMap_some
  have remembers := SlidingLog.remembers_of_run validShorter ran
  have trails := SlidingLog.trails_of_run validShorter ran
    (by
      intro a member
      obtain ⟨t, -, rfl⟩ := List.mem_map.1 member
      exact rfl)
    (allTimes.symm ▸ before)
  rw [allTimes] at trails
  have resolved : h.bounds now {} =
      .ok (.ok (⟨now.nanos - ((c.window.nanos - 1 : Nat) : Int)⟩, now)) := by
    rw [SlidingLog.History.bounds, trails.length]
    exact (AllowOptions.windowBounds_trailing rfl).2 ⟨reaches.shift?_eq, rfl⟩
  -- The left boundaries are those of earlier requests.
  have forward : ∀ earlier ∈ h.lefts,
      earlier ≤ ⟨now.nanos - ((c.window.nanos - 1 : Nat) : Int)⟩ := by
    intro earlier member
    obtain ⟨t, found, rfl⟩ := trails.lefts earlier member
    have := Instant.le_def.1 (latest t found now (List.mem_singleton_self _))
    exact Instant.le_def.2 (Int.sub_le_sub_right this _)
  have counted : SlidingLog.unitsWithin h.accepted
      ⟨now.nanos - ((c.window.nanos - 1 : Nat) : Int)⟩ now =
        recent (run c times).2 c.window.nanos now := by
    rw [same]
    refine unitsWithin_eq_recent ?_ fun t member =>
      latest t (mem_of_mem_accepted member) now (List.mem_singleton_self _)
    show now.nanos - _ = now.nanos - _
    omega
  -- A window holds no more units than the limit, so that no count passes 64 bits.
  have bounded : SlidingLog.unitsWithin h.accepted
      ⟨now.nanos - ((c.window.nanos - 1 : Nat) : Int)⟩ now ≤ c.limit := by
    have light : ∀ e ∈ h.accepted, e.2 ≤ 1 := by
      intro e member
      rw [same] at member
      obtain ⟨t, -, rfl⟩ := List.mem_map.1 member
      exact Nat.le_refl 1
    have most := trails.spaced.unitsWithin_le light
      (Int.le_of_eq (Int.sub_add_cancel now.nanos ((c.window.nanos - 1 : Nat) : Int)).symm)
    exact Nat.le_trans most (Nat.le_of_eq (Nat.sub_add_cancel positive))
  obtain ⟨l', answered⟩ := remembers.allow_eq_of_unitsWithin_lt (n := 1) resolved forward
    (Nat.lt_of_le_of_lt bounded small) fun room =>
      Nat.lt_of_le_of_lt (Nat.lt_of_lt_of_eq room trails.limit) small
  refine ⟨l', ?_⟩
  rw [answered, (queues_run positive before).allow_snd positive, counted, trails.limit]
  rfl

/-- A log that is asked at the same times goes through, and accepts what the window accepts. -/
theorem exists_run_slidingLog (valid : c.validate = .ok ()) (small : c.limit < 2 ^ 64)
    (long : 2 ≤ c.window.nanos) (fixedWindow : Option FixedWindow)
    (ordered : times.Pairwise (· ≤ ·)) (reaches : ∀ t ∈ times, Reaches c.window t) :
    ∃ l h, SlidingLog.run (shorter c fixedWindow) (singles times) = .ok (l, h) ∧
      h.accepted = (run c times).2.map fun t => (t, 1) := by
  induction times using List.reverseRecOn with
  | nil => exact ⟨_, _, rfl, rfl⟩
  | append_singleton times now ih =>
    obtain ⟨l, h, ran, same⟩ := ih (List.pairwise_append.1 ordered).1 fun t member =>
      reaches t (List.mem_append_left _ member)
    obtain ⟨l', answered⟩ := exists_allow_slidingLog valid small long ran same ordered
      (reaches now (List.mem_append_right _ (List.mem_singleton_self _)))
    refine ⟨l', h.note now 1 {} (.ok ((run c times).1.allow now).2), ?_, ?_⟩
    · rw [singles, List.map_append, ← singles, List.map_singleton, SlidingLog.run_concat, ran]
      simp only [Except.bind, SlidingLog.act, answered, Except.map]
    · simp only [SlidingLog.History.note, run_concat, note, same]
      cases ((run c times).1.allow now).2 <;> simp

/-- **A sliding window is exact for a half-open window.** At every request of a run in the order of
time, the decision is whether fewer accepted instants than the limit, of all of them, are less than
a window old. A sliding log with the same limit and a window that is a nanosecond shorter makes the
same decision, if it has a left boundary for every request. -/
theorem allow_eq_decide_recent_lt (valid : c.validate = .ok ())
    (ordered : (times ++ [now]).Pairwise (· ≤ ·)) :
    ((run c times).1.allow now).2 =
        Decidable.decide (recent (run c times).2 c.window.nanos now < c.limit) ∧
      (c.limit < 2 ^ 64 → 2 ≤ c.window.nanos → (∀ t ∈ times ++ [now], Reaches c.window t) →
        ∀ fixedWindow, ∃ l h l',
          SlidingLog.run (shorter c fixedWindow) (singles times) = .ok (l, h) ∧
          l.allow now 1 {} = .ok (l', .ok ((run c times).1.allow now).2)) := by
  obtain ⟨positive, -, -⟩ := Config.validate_eq_ok_iff.1 valid
  have before := (List.pairwise_append.1 ordered).1
  refine ⟨(queues_run positive before).allow_snd positive now,
    fun small long reaches fixedWindow => ?_⟩
  obtain ⟨l, h, ran, same⟩ := exists_run_slidingLog valid small long fixedWindow before
    fun t member => reaches t (List.mem_append_left _ member)
  obtain ⟨l', answered⟩ := exists_allow_slidingLog valid small long ran same ordered
    (reaches now (List.mem_append_right _ (List.mem_singleton_self _)))
  exact ⟨l, h, l', ran, answered⟩

/-- Two requests half a second apart fill a window of one second with a limit of two. A request
fails a nanosecond before the first of them is a second old and passes a nanosecond later, as in a
log. -/
theorem allow_a_second_later :
    ((run ⟨2, .ofSeconds 1⟩ [⟨0⟩, ⟨500000000⟩, ⟨999999999⟩]).1.allow ⟨1000000000⟩).2 = true ∧
      ((run ⟨2, .ofSeconds 1⟩ [⟨0⟩, ⟨500000000⟩]).1.allow ⟨999999999⟩).2 = false ∧
      ∃ l h l', SlidingLog.run ⟨2, ⟨999999999⟩, none⟩
          (singles [⟨0⟩, ⟨500000000⟩, ⟨999999999⟩]) = .ok (l, h) ∧
        l.allow ⟨1000000000⟩ 1 {} = .ok (l', .ok true) := by
  have later := @allow_eq_decide_recent_lt ⟨2, .ofSeconds 1⟩
    [⟨0⟩, ⟨500000000⟩, ⟨999999999⟩] ⟨1000000000⟩ rfl (by decide)
  have sooner := @allow_eq_decide_recent_lt ⟨2, .ofSeconds 1⟩
    [⟨0⟩, ⟨500000000⟩] ⟨999999999⟩ rfl (by decide)
  have passed : ((run ⟨2, .ofSeconds 1⟩
      [⟨0⟩, ⟨500000000⟩, ⟨999999999⟩]).1.allow ⟨1000000000⟩).2 = true := later.1.trans (by decide)
  refine ⟨passed, sooner.1.trans (by decide), ?_⟩
  have logged := later.2 (by decide) (by decide) (by
    intro t member
    simp only [List.cons_append, List.nil_append, List.mem_cons, List.not_mem_nil,
      or_false] at member
    rcases member with rfl | rfl | rfl | rfl <;> exact ⟨by decide, by decide⟩) none
  rw [passed] at logged
  exact logged

end Runs

end SlidingWindow

end Throttle
