import Mathlib.Data.Set.Insert
import Throttle.Proofs.Shared.Request
import Throttle.Proofs.Window.Records

/-!
# What a store holds of the accepted requests

The store counts in microseconds and forgets: the script drops what scores below the left boundary
of a request, and a key that outlives its deadline is gone as a whole. A list of the records that
are still there stands between the sorted set of a key and the requests that were accepted. It holds
every accepted request that a later window can reach.

## Main definitions

* `SlidingLog.unitsScoring records p`: the units of the records whose microseconds satisfy `p`
* `SharedSlidingLog.Tracks`: a sorted set has one member for each unit of some records
* `SharedSlidingLog.Holds`: a slot holds such a set
* `SharedSlidingLog.Follows`: a slot holds every accepted request that can still be counted

## Main results

* `SharedSlidingLog.Tracks.tryAdd`: a request adds its units, none of which was there
* `SharedSlidingLog.Follows.live`: the passage of time loses nothing that can still be counted
* `SharedSlidingLog.Follows.allow`: nor does a request
-/

namespace Throttle

namespace SlidingLog

/-- The units of the records whose microseconds satisfy `p`. -/
def unitsScoring (records : List (Instant × Nat)) (p : Int → Bool) : Nat :=
  units (records.filter fun e => p e.1.micros)

/-- The records whose microseconds are not below a bound. -/
def scoringFrom (bound : Int) (records : List (Instant × Nat)) : List (Instant × Nat) :=
  records.filter fun e => Decidable.decide (bound ≤ e.1.micros)

@[simp] theorem unitsScoring_nil (p : Int → Bool) : unitsScoring [] p = 0 := rfl

theorem unitsScoring_append (records more : List (Instant × Nat)) (p : Int → Bool) :
    unitsScoring (records ++ more) p = unitsScoring records p + unitsScoring more p := by
  rw [unitsScoring, List.filter_append, units_append]
  rfl

theorem unitsScoring_singleton (e : Instant × Nat) (p : Int → Bool) :
    unitsScoring [e] p = if p e.1.micros then e.2 else 0 := by
  rw [unitsScoring, List.filter_singleton]
  cases p e.1.micros <;> rfl

theorem unitsScoring_scoringFrom (bound : Int) (records : List (Instant × Nat)) (p : Int → Bool) :
    unitsScoring (scoringFrom bound records) p =
      unitsScoring records fun score => Decidable.decide (bound ≤ score) && p score := by
  simp only [unitsScoring, scoringFrom, List.filter_filter, Bool.and_comm]

/-- Rounding down adds to a window: what lies between two instants also does so in
microseconds. -/
theorem unitsWithin_le_unitsScoring (records : List (Instant × Nat)) (left right : Instant) :
    unitsWithin records left right ≤ unitsScoring records fun score =>
      Decidable.decide (left.micros ≤ score) && Decidable.decide (score ≤ right.micros) := by
  refine units_le_of_sublist (List.monotone_filter_right records fun e inside => ?_)
  simp only [Bool.and_eq_true, decide_eq_true_eq] at inside ⊢
  exact ⟨Instant.micros_le_micros inside.1, Instant.micros_le_micros inside.2⟩

/-- Whole microseconds are not rounded. -/
theorem scoringFrom_of_dvd {left : Instant} (whole : 1000 ∣ left.nanos)
    (records : List (Instant × Nat)) : scoringFrom left.micros records = since left records := by
  refine List.filter_congr fun e _ => ?_
  rw [decide_eq_decide, Instant.le_def]
  simp only [Instant.micros]
  omega

/-- Rounding down drops nothing that is not older than an instant. -/
theorem since_scoringFrom {left left' : Instant} (h : left ≤ left')
    (records : List (Instant × Nat)) :
    since left' (scoringFrom left.micros records) = since left' records := by
  rw [since, scoringFrom, List.filter_filter]
  refine List.filter_congr fun e _ => ?_
  by_cases reached : left' ≤ e.1
  · have scored : left.micros ≤ e.1.micros :=
      Instant.micros_le_micros (Int.le_trans (Instant.le_def.1 h) (Instant.le_def.1 reached))
    simp [reached, scored]
  · simp [reached]

end SlidingLog

namespace SharedSlidingLog

open SlidingLog

/-- A sorted set has one member for each unit of the records `kept`, which scores the microseconds
of its record and has a name that was drawn for a request. -/
structure Tracks (s : SortedSet) (drawn : Set (Int × UInt64 × UInt64))
    (kept : List (Instant × Nat)) : Prop where
  coherent : s.Coherent
  scoring : ∀ p, s.scoring p = unitsScoring kept p
  named : ∀ unit, s.score? unit ≠ none → ∃ micros origin sequence n,
    (micros, origin, sequence) ∈ drawn ∧
      unit ∈ Store.unitNames (MemberNames.name micros origin sequence) n

theorem tracks_empty (drawn : Set (Int × UInt64 × UInt64)) : Tracks ∅ drawn [] where
  coherent := SortedSet.coherent_empty
  scoring := by simp
  named := by simp

namespace Tracks

variable {s : SortedSet} {drawn drawn' : Set (Int × UInt64 × UInt64)} {kept : List (Instant × Nat)}

theorem mono (t : Tracks s drawn kept) (h : drawn ⊆ drawn') : Tracks s drawn' kept where
  coherent := t.coherent
  scoring := t.scoring
  named unit scored := by
    obtain ⟨micros, origin, sequence, n, found, own⟩ := t.named unit scored
    exact ⟨micros, origin, sequence, n, h found, own⟩

/-- The units of a request with a new name are not there yet. -/
theorem score?_eq_none (t : Tracks s drawn kept) {micros : Int} {origin sequence : UInt64}
    (fresh : (micros, origin, sequence) ∉ drawn) {n : Nat} {unit : String}
    (own : unit ∈ Store.unitNames (MemberNames.name micros origin sequence) n) :
    s.score? unit = none := by
  by_contra scored
  obtain ⟨micros', origin', sequence', n', found, other⟩ := t.named unit scored
  obtain ⟨rfl, rfl, rfl⟩ := Store.eq_of_mem_unitNames own other
  exact fresh found

/-- The removal of low scores drops the records below the bound. -/
theorem removeBelow (t : Tracks s drawn kept) (bound : Int) :
    Tracks (s.removeBelow bound) drawn (scoringFrom bound kept) where
  coherent := t.coherent.removeBelow bound
  scoring p := by
    rw [t.coherent.scoring_removeBelow, t.scoring, unitsScoring_scoringFrom]
  named unit scored := by
    -- A member that is left was there before.
    refine t.named unit fun absent => scored ?_
    rw [t.coherent.score?_removeBelow, absent, Option.filter_none]

/-- The units of a request with a new name are one more record. -/
theorem addAll (t : Tracks s drawn kept) {now : Instant} {origin sequence : UInt64}
    (fresh : (now.micros, origin, sequence) ∉ drawn) {n : Nat} (positive : 1 ≤ n) :
    Tracks
      (s.addAll now.micros (Store.unitNames (MemberNames.name now.micros origin sequence) n))
      (insert (now.micros, origin, sequence) drawn) (kept ++ [(now, n)]) where
  coherent := t.coherent.addAll _ _
  scoring p := by
    rw [t.coherent.scoring_addAll (Store.nodup_unitNames _ n)
      (fun unit own => t.score?_eq_none fresh own), Store.length_unitNames _ positive, t.scoring,
      unitsScoring_append, unitsScoring_singleton]
  named unit scored := by
    rw [SortedSet.score?_addAll] at scored
    split at scored
    -- A member is a unit of this request, or it was there before.
    · rename_i own
      exact ⟨now.micros, origin, sequence, n, Set.mem_insert _ _, own⟩
    · obtain ⟨micros', origin', sequence', n', found, own⟩ := t.named unit scored
      exact ⟨micros', origin', sequence', n', Set.mem_insert_of_mem _ found, own⟩

/-- **A request adds its units, none of which was there.** It passes if the records that are still
there have fewer units between its boundaries than the limit. -/
theorem tryAdd (t : Tracks s drawn kept) {now : Instant} {origin sequence : UInt64}
    (fresh : (now.micros, origin, sequence) ∉ drawn) {n : Nat} (positive : 1 ≤ n) (left : Int)
    (limit : Nat) :
    let answer := s.tryAdd left now.micros now.micros limit
      (Store.unitNames (MemberNames.name now.micros origin sequence) n)
    answer.2 = Decidable.decide ((unitsScoring kept fun score =>
        Decidable.decide (left ≤ score) && Decidable.decide (score ≤ now.micros)) < limit) ∧
      Tracks answer.1 (insert (now.micros, origin, sequence) drawn)
        (scoringFrom left kept ++ if answer.2 then [(now, n)] else []) := by
  -- The units that are dropped first would not be counted either.
  have seen : (s.removeBelow left).count left now.micros = unitsScoring kept fun score =>
      Decidable.decide (left ≤ score) && Decidable.decide (score ≤ now.micros) := by
    rw [SortedSet.count_eq_scoring, t.coherent.scoring_removeBelow, t.scoring]
    congr 1
    funext score
    cases Decidable.decide (left ≤ score) <;> rfl
  have rest := t.removeBelow left
  simp only [SortedSet.tryAdd, seen]
  split
  · rename_i full
    refine ⟨by simp [full], ?_⟩
    simpa using rest.mono (Set.subset_insert _ _)
  · rename_i room
    refine ⟨by simpa using room, ?_⟩
    simpa using rest.addAll fresh positive

end Tracks

/-! ## Keys that expire -/

/-- A slot holds a sorted set with the records `kept`; no slot holds none. -/
inductive Holds (drawn : Set (Int × UInt64 × UInt64)) (kept : List (Instant × Nat)) :
    Option Slot → Prop where
  | absent (nothing : kept = []) : Holds drawn kept none
  | present {s : SortedSet} {deadline : Option Instant} (tracks : Tracks s drawn kept) :
      Holds drawn kept (some ⟨.sortedSet s, deadline⟩)

/-- At `now` a slot holds of the accepted requests those that a window of `length` nanoseconds can
still reach, and it does not expire before the last window that reaches one of them. -/
structure Follows (slot : Option Slot) (drawn : Set (Int × UInt64 × UInt64)) (length : Int)
    (now : Instant) (accepted : List (Instant × Nat)) : Prop where
  held : ∃ kept, Holds drawn kept slot ∧ ∀ left : Instant, now.nanos - length ≤ left.nanos →
    since left kept = since left accepted
  lasting : ∀ held deadline, slot = some held → held.expiresAt = some deadline →
    ∀ e ∈ accepted, e.1.nanos + length < deadline.nanos

theorem Holds.exists_tracks {drawn : Set (Int × UInt64 × UInt64)} {kept : List (Instant × Nat)}
    {slots : Table Slot} {key : String} (h : Holds drawn kept (slots.get? key)) :
    ∃ s, Store.sortedSetAt slots key = .ok s ∧ Tracks s drawn kept := by
  unfold Store.sortedSetAt
  cases found : slots.get? key with
  | none =>
    rw [found] at h
    obtain ⟨rfl⟩ := h
    exact ⟨∅, rfl, tracks_empty drawn⟩
  | some slot =>
    rw [found] at h
    cases h with
    | present tracks => exact ⟨_, rfl, tracks⟩

/-- A sorted set has as many members as its records have units. -/
theorem Tracks.size_eq {s : SortedSet} {drawn : Set (Int × UInt64 × UInt64)}
    {kept : List (Instant × Nat)} (t : Tracks s drawn kept) : s.size = units kept := by
  rw [SortedSet.size_eq_scoring, t.scoring, unitsScoring, List.filter_true]

/-- The members under a key are the units of what it holds. -/
theorem Holds.zcard_eq {drawn : Set (Int × UInt64 × UInt64)} {kept : List (Instant × Nat)}
    {store : Store} {now : Instant} {key : String}
    (h : Holds drawn kept ((store.live now).get? key)) : store.zcard now key = units kept := by
  unfold Store.zcard Store.slot?
  generalize (store.live now).get? key = slot at h ⊢
  cases h with
  | absent nothing => rw [nothing]; rfl
  | present tracks => exact tracks.size_eq

namespace Follows

variable {slot : Option Slot} {drawn drawn' : Set (Int × UInt64 × UInt64)} {length : Int}
  {now earlier : Instant} {accepted : List (Instant × Nat)}

/-- A key that has not been used holds what no request has left. -/
theorem empty (drawn : Set (Int × UInt64 × UInt64)) (length : Int) (now : Instant) :
    Follows none drawn length now [] where
  held := ⟨[], .absent rfl, fun _ _ => rfl⟩
  lasting := by simp

theorem mono (f : Follows slot drawn length now accepted) (h : drawn ⊆ drawn') :
    Follows slot drawn' length now accepted where
  held := by
    obtain ⟨kept, held, same⟩ := f.held
    refine ⟨kept, ?_, same⟩
    cases held with
    | absent nothing => exact .absent nothing
    | present tracks => exact .present (tracks.mono h)
  lasting := f.lasting

/-- **The passage of time loses nothing that can still be counted.** A key that has expired held
only requests that no later window reaches. -/
theorem live (f : Follows slot drawn length earlier accepted) (h : earlier ≤ now) :
    Follows (slot.filter (·.isLive now)) drawn length now accepted := by
  obtain ⟨kept, held, same⟩ := f.held
  rw [Instant.le_def] at h
  cases slot with
  | none => exact ⟨⟨kept, held, fun left reached => same left (by omega)⟩, by simp⟩
  | some slot =>
    by_cases alive : slot.isLive now = true
    · rw [Option.filter_some, if_pos alive]
      exact ⟨⟨kept, held, fun left reached => same left (by omega)⟩, f.lasting⟩
    · rw [Option.filter_some, if_neg alive]
      refine ⟨⟨[], .absent rfl, fun left reached => ?_⟩, by simp⟩
      -- The deadline has passed, and every window that reaches a request ends before it.
      obtain ⟨deadline, set, passed⟩ := Slot.exists_of_not_isLive alive
      refine (List.filter_eq_nil_iff.2 fun e member => ?_).symm
      have before := f.lasting slot deadline rfl set e member
      rw [Instant.le_def] at passed
      rw [decide_eq_true_eq, Instant.le_def]
      omega

/-- What no later window reaches need not be followed. -/
theorem forget (f : Follows slot drawn length now accepted) {left : Instant}
    (h : left.nanos ≤ now.nanos - length) :
    Follows slot drawn length now (since left accepted) where
  held := by
    obtain ⟨kept, held, same⟩ := f.held
    refine ⟨kept, held, fun left' reached => ?_⟩
    rw [since_since (Instant.le_def.2 (by omega))]
    exact same left' reached
  lasting held deadline found set e member :=
    f.lasting held deadline found set e (List.mem_filter.1 member).1

/-- A sorted set from which the records below the left boundary were dropped, with more records, and
a deadline a grace after the last window that reaches them. -/
theorem renew {s : SortedSet} {kept more : List (Instant × Nat)} {left : Instant}
    {deadline : Option Instant} (boundary : left.nanos = now.nanos - length)
    (same : ∀ left : Instant, now.nanos - length ≤ left.nanos →
      since left kept = since left accepted)
    (tracks : Tracks s drawn (scoringFrom left.micros kept ++ more))
    (lasting : ∀ d, deadline = some d → ∀ e ∈ accepted ++ more, e.1.nanos + length < d.nanos) :
    Follows (some ⟨.sortedSet s, deadline⟩) drawn length now (accepted ++ more) where
  held := by
    refine ⟨_, .present tracks, fun left' reached => ?_⟩
    have later : left ≤ left' := Instant.le_def.2 (by omega)
    -- What is dropped lies to the left of this window, and so of every later one.
    rw [since_append, since_append, since_scoringFrom later, same left' reached]
  lasting := by
    rintro held d ⟨rfl⟩ set
    exact lasting d set

end Follows

/-! ## Requests -/

/-- What a trailing request leaves behind that was made at `now`, with the left boundary `left`:
it passed or not, and the store went from `store` to `store'`. The records `kept` were those still
there. -/
structure Leaves (l : SharedSlidingLog) (params : SlidingLog.Config) (o : AllowOptions)
    (now left : Instant) (drawn : Set (Int × UInt64 × UInt64))
    (accepted kept : List (Instant × Nat)) (key : String) (store store' : Store) (passed : Bool) :
    Prop where
  available : store'.available = true
  /-- The new lifetime of the key has not run out. -/
  live : (store'.live now).get? key = store'.slots.get? key
  others : ∀ other, key ≠ other → store'.slots.get? other = (store.live now).get? other
  /-- No accepted request is newer than this one. -/
  before : ∀ e ∈ accepted, e.1 ≤ now
  /-- What was still there is what was accepted, as far as the request reaches. -/
  same : since left kept = since left accepted
  /-- The request passes if what was still there leaves room. -/
  decided : passed = Decidable.decide ((unitsScoring kept fun score =>
    Decidable.decide (left.micros ≤ score) && Decidable.decide (score ≤ now.micros)) < params.limit)
  /-- The records that the request reaches stay, and its own comes to them if it passes. -/
  holds : Holds (insert (now.micros, l.members.origin, l.members.sequence) drawn)
    (scoringFrom left.micros kept ++ if passed then [(now, o.weight)] else [])
    (store'.slots.get? key)
  follows : Follows (store'.slots.get? key)
    (insert (now.micros, l.members.origin, l.members.sequence) drawn) params.window.nanos now
    (accepted ++ if passed then [(now, o.weight)] else [])

/-- **A trailing request loses nothing that can still be counted.** -/
theorem Follows.allow (α : Type) [Arithmetic α] {l : SharedSlidingLog} {o : AllowOptions}
    {now left : Instant} {lifetime : Span} {key : String}
    (serves : l.Serves (l.keyed.state key) o now left lifetime) (graced : 0 < l.grace.nanos)
    {store : Store} (available : store.available = true)
    {drawn : Set (Int × UInt64 × UInt64)} {accepted : List (Instant × Nat)}
    (f : Follows ((store.live now).get? key) drawn (l.keyed.state key).window.nanos now accepted)
    (ordered : ∀ e ∈ accepted, e.1 ≤ now)
    (fresh : (now.micros, l.members.origin, l.members.sequence) ∉ drawn) :
    ∃ store' passed kept, l.allow (Store.context α now) store key o =
        .ok ((l.afterRequest key now, store'), .ok passed) ∧
      Leaves l (l.keyed.state key) o now left drawn accepted kept key store store' passed := by
  obtain ⟨kept, held, same⟩ := f.held
  obtain ⟨s, found, tracks⟩ := held.exists_tracks
  obtain ⟨store', answers, available', slots⟩ :=
    exists_allow α serves available found tracks.coherent
  obtain ⟨decided, admitted⟩ :=
    tracks.tryAdd fresh o.one_le_weight left.micros (l.keyed.state key).limit
  have boundary : left.nanos = now.nanos - (l.keyed.state key).window.nanos :=
    (Instant.shift?_eq_some_iff.1 serves.reaches).1
  have span : lifetime.nanos = (l.keyed.state key).window.nanos + l.grace.nanos :=
    (Span.plus?_eq_some_iff.1 serves.lasts).1
  have own := slots key
  rw [if_pos rfl] at own
  refine ⟨store', (l.answer s left now (l.keyed.state key).limit o.weight).2, kept, answers,
    available', ?_, fun other different => by rw [slots other, if_neg different], ordered,
    same left (by omega), decided, ?_, ?_⟩
  -- The new deadline lies ahead, since the lifetime holds a grace.
  · rw [Store.get?_live, own, Option.filter_some, if_pos (Slot.isLive_after _ (by omega))]
  · rw [own]
    exact .present admitted
  · rw [own]
    -- The last window that reaches a request ends before the deadline, by the grace.
    refine renew boundary same admitted fun deadline set e member => ?_
    have ahead := (Instant.shift?_eq_some_iff.1 set).1
    have before : e.1 ≤ now := by
      rcases List.mem_append.1 member with old | new
      · exact ordered e old
      · split at new
        · rw [List.mem_singleton.1 new]
          exact Int.le_refl _
        · cases new
    rw [Instant.le_def] at before
    omega

namespace Leaves

variable {l : SharedSlidingLog} {params : SlidingLog.Config} {o : AllowOptions}
  {now left later : Instant} {drawn : Set (Int × UInt64 × UInt64)}
  {accepted kept : List (Instant × Nat)} {key : String} {store store' : Store} {passed : Bool}

/-- The key of the request goes on following what was accepted for it. -/
theorem follows_own
    (leaves : Leaves l params o now left drawn accepted kept key store store' passed)
    (reached : now ≤ later) :
    Follows ((store'.live later).get? key)
      (insert (now.micros, l.members.origin, l.members.sequence) drawn) params.window.nanos later
      (accepted ++ if passed then [(now, o.weight)] else []) := by
  rw [Store.get?_live]
  exact leaves.follows.live reached

/-- So does every other key. -/
theorem follows_other
    (leaves : Leaves l params o now left drawn accepted kept key store store' passed)
    {other : String} (different : key ≠ other) {length : Int} {acceptedOther : List (Instant × Nat)}
    (f : Follows ((store.live now).get? other) drawn length now acceptedOther)
    (reached : now ≤ later) :
    Follows ((store'.live later).get? other)
      (insert (now.micros, l.members.origin, l.members.sequence) drawn) length later
      acceptedOther := by
  rw [Store.get?_live, leaves.others other different]
  exact (f.mono (Set.subset_insert _ _)).live reached

/-- A request that passes has found room among the accepted requests that lie in its window. -/
theorem unitsWithin_lt
    (leaves : Leaves l params o now left drawn accepted kept key store store' true) :
    unitsWithin accepted left now < params.limit := by
  have counted : unitsWithin accepted left now = unitsWithin kept left now := by
    rw [unitsWithin, unitsWithin, ← within_since accepted, ← leaves.same, within_since]
  rw [counted]
  exact Nat.lt_of_le_of_lt (unitsWithin_le_unitsScoring kept left now)
    (of_decide_eq_true leaves.decided.symm)

end Leaves

end SharedSlidingLog

end Throttle
