import Mathlib.Data.Finset.Card
import Mathlib.Data.List.GetD
import Throttle.Proofs.Shared.Admission
import Throttle.Proofs.Shared.Agreement
import Throttle.Proofs.Shared.Lifetime

/-!
# Requests with windows of their own

Requests of a shared sliding window may bring windows and limits of their own, and those on one key
share its members. A request that passes drops what its own window does not reach, and every request
gives the key a lifetime of its own window and the grace. So a request with a short window can make
the store forget what a later request with a longer window would count. A request counts exactly the
requests in its window that the store has not forgotten, and it has forgotten none of them if no
earlier window was shorter.

## Main definitions

* `Ask`: a request with a window and a limit of its own
* `Ask.Reaches`: a request lies in the window of another one
* `SharedSlidingWindow.Forgotten`: a request is forgotten before another one is made
* `SharedSlidingWindow.counted`: the requests that a request counts

## Main results

* `SharedSlidingWindow.not_forgotten_of_window_le`: no shorter window, nothing forgotten
* `SharedSlidingWindow.Keeps.tryAdmit`: what a request does to the members of its key
* `SharedSlidingWindow.drive_shouldAllow`: **a request passes if it counts fewer than its limit**
-/

namespace Throttle

/-- A request with a window and a limit of its own. -/
structure Ask where
  now : Instant
  window : Span
  limit : Nat
deriving Inhabited

namespace Ask

/-- The oldest instant that the window of a request reaches, in nanoseconds. -/
def oldest (a : Ask) : Int := a.now.nanos - a.window.nanos

/-- The instant from which a key is gone if no request follows, in nanoseconds. -/
def deadline (a : Ask) (grace : Span) : Int := a.now.nanos + a.window.nanos + grace.nanos

/-- A request lies in the window of another one. -/
def Reaches (a earlier : Ask) : Prop := a.oldest ≤ earlier.now.nanos ∧ earlier.now ≤ a.now

instance (a earlier : Ask) : Decidable (a.Reaches earlier) :=
  inferInstanceAs (Decidable (_ ∧ _))

/-- A request as a call about a key. -/
def call {α : Type} (key : String) (a : Ask) : Instant × Call α :=
  (a.now, .shouldAllow key a.window a.limit)

/-- A request stays within the ranges of what it computes with, and its times are whole
microseconds. -/
structure InRange (grace : Span) (a : Ask) : Prop where
  readable : a.now.Representable
  whole : 1000 ∣ a.now.nanos ∧ 1000 ∣ a.window.nanos
  isWindow : 0 < a.window.nanos ∧ a.window.nanos ≤ Span.longestWindow.nanos
  positive : 0 < a.limit
  limit_lt : a.limit < 2 ^ 63
  reaches : (a.now.shift? (-a.window.nanos)).isSome
  lasts : (a.window.plus? grace).isSome

variable {grace : Span} {a b : Ask}

/-- A request begins to count at a whole microsecond. -/
theorem le_micros_iff (inRange : a.InRange grace) (inRange' : b.InRange grace) {boundary : Instant}
    (begins : boundary.nanos = a.now.nanos + -a.window.nanos) :
    boundary.micros ≤ b.now.micros ↔ a.oldest ≤ b.now.nanos := by
  have now := inRange.whole.1
  have window := inRange.whole.2
  have earlier := inRange'.whole.1
  simp only [oldest, Instant.micros]
  omega

/-- Requests are made at whole microseconds. -/
theorem micros_le_iff (inRange : a.InRange grace) (inRange' : b.InRange grace) :
    b.now.micros ≤ a.now.micros ↔ b.now ≤ a.now := by
  have now := inRange.whole.1
  have earlier := inRange'.whole.1
  simp only [Instant.le_def, Instant.micros]
  omega

end Ask

namespace SharedSlidingWindow

/-! ## What a store forgets -/

/-- The request numbered `i`. -/
def nth (asks : List Ask) (i : ℕ) : Ask := asks.getD i default

theorem nth_eq {asks : List Ask} {i : ℕ} (within : i < asks.length) : nth asks i = asks[i] :=
  List.getD_eq_getElem ..

section Forgetting

variable (grace : Span) (asks : List Ask) (decisions : List Bool)

/-- The request numbered `i` is forgotten before the one numbered `j` is made: a request that passed
in between did not reach it, or no request came before the deadline that the one before had set. -/
def Forgotten (i j : ℕ) : Prop :=
  ∃ m < j, i ≤ m ∧
    (decisions[m]? = some true ∧ (nth asks i).now.nanos < (nth asks m).oldest ∨
      (nth asks m).deadline grace ≤ (nth asks (m + 1)).now.nanos)

instance (i j : ℕ) : Decidable (Forgotten grace asks decisions i j) :=
  inferInstanceAs (Decidable (∃ m < j, _))

/-- The requests that passed and are not forgotten when the one numbered `j` is made. -/
def remembered (j : ℕ) : Finset ℕ :=
  (Finset.range j).filter fun i =>
    decisions[i]? = some true ∧ ¬Forgotten grace asks decisions i j

/-- The requests that passed and lie in the window of the one numbered `j`. -/
def recent (j : ℕ) : Finset ℕ :=
  (Finset.range j).filter fun i =>
    decisions[i]? = some true ∧ (nth asks j).Reaches (nth asks i)

/-- The requests that the one numbered `j` counts: those in its window that are not forgotten. -/
def counted (j : ℕ) : Finset ℕ :=
  (recent asks decisions j).filter fun i => ¬Forgotten grace asks decisions i j

variable {grace asks decisions} {i j : ℕ}

/-- One more request forgets what it drops, and everything if its deadline passes. -/
theorem forgotten_succ :
    Forgotten grace asks decisions i (j + 1) ↔ Forgotten grace asks decisions i j ∨ i ≤ j ∧
      (decisions[j]? = some true ∧
          (nth asks i).now.nanos < (nth asks j).oldest ∨
        (nth asks j).deadline grace ≤ (nth asks (j + 1)).now.nanos) := by
  simp only [Forgotten, Nat.lt_succ_iff_lt_or_eq, or_and_right, exists_or, exists_eq_left]

/-- Later decisions do not matter. -/
theorem forgotten_append (passed : Bool) (within : j ≤ decisions.length) :
    Forgotten grace asks (decisions ++ [passed]) i j ↔ Forgotten grace asks decisions i j := by
  refine exists_congr fun m => and_congr_right fun before => ?_
  rw [List.getElem?_append_left (by omega)]

theorem recent_append (passed : Bool) (within : j ≤ decisions.length) :
    recent asks (decisions ++ [passed]) j = recent asks decisions j := by
  refine Finset.filter_congr fun i member => ?_
  rw [Finset.mem_range] at member
  rw [List.getElem?_append_left (by omega)]

theorem counted_append (passed : Bool) (within : j ≤ decisions.length) :
    counted grace asks (decisions ++ [passed]) j = counted grace asks decisions j := by
  rw [counted, recent_append passed within, counted]
  exact Finset.filter_congr fun i _ => not_congr (forgotten_append passed within)

/-- What is counted is what is remembered in the window. -/
theorem counted_eq : counted grace asks decisions j =
    (remembered grace asks decisions j).filter fun i =>
      (nth asks j).Reaches (nth asks i) := by
  ext i
  simp only [counted, recent, remembered, Finset.mem_filter]
  tauto

/-- **Nothing in the window of a request is forgotten if no earlier window was shorter.** -/
theorem not_forgotten_of_window_le (graced : 0 < grace.nanos) (within : j < asks.length)
    (ordered : asks.Pairwise fun a b => a.now ≤ b.now)
    (shortest : ∀ m < j, (nth asks j).window.nanos ≤ (nth asks m).window.nanos)
    (reached : (nth asks j).oldest ≤ (nth asks i).now.nanos) :
    ¬Forgotten grace asks decisions i j := by
  have order : ∀ m n, m ≤ n → n < asks.length →
      (nth asks m).now.nanos ≤ (nth asks n).now.nanos := by
    intro m n le inside
    rcases le.lt_or_eq with lt | rfl
    · rw [nth_eq inside, nth_eq (lt.trans inside)]
      exact List.pairwise_iff_getElem.1 ordered m n (lt.trans inside) inside lt
    · exact le_refl _
  rintro ⟨m, before, after, ⟨-, dropped⟩ | expired⟩
  · have longer := shortest m before
    have earlier := order m j before.le within
    simp only [Ask.oldest] at dropped reached
    omega
  · have longer := shortest m before
    have first := order i m after (before.trans within)
    have next := order (m + 1) j before within
    simp only [Ask.deadline, Ask.oldest] at expired reached
    omega

end Forgetting

/-! ## The members of a key -/

/-- A sorted set has one member for each of the requests `kept`, which scores the microseconds of
its request and has a name that was drawn for one. -/
structure Keeps (asks : List Ask) (s : SortedSet) (drawn : Set (Int × UInt64 × UInt64))
    (kept : Finset ℕ) : Prop where
  coherent : s.Coherent
  scoring : ∀ p : Int → Bool,
    s.scoring p = (kept.filter fun i => p (nth asks i).now.micros = true).card
  named : ∀ member, s.score? member ≠ none → ∃ micros origin sequence,
    (micros, origin, sequence) ∈ drawn ∧ member = MemberNames.name micros origin sequence

namespace Keeps

variable {asks : List Ask} {s : SortedSet} {drawn : Set (Int × UInt64 × UInt64)} {kept : Finset ℕ}

theorem empty (asks : List Ask) (drawn : Set (Int × UInt64 × UInt64)) : Keeps asks ∅ drawn ∅ where
  coherent := SortedSet.coherent_empty
  scoring := by simp
  named := by simp

theorem mono (k : Keeps asks s drawn kept) {drawn' : Set (Int × UInt64 × UInt64)}
    (more : drawn ⊆ drawn') : Keeps asks s drawn' kept where
  coherent := k.coherent
  scoring := k.scoring
  named member scored := by
    obtain ⟨micros, origin, sequence, found, own⟩ := k.named member scored
    exact ⟨micros, origin, sequence, more found, own⟩

/-- The removal of low scores drops the requests below the bound. -/
theorem removeBelow (k : Keeps asks s drawn kept) (bound : Int) :
    Keeps asks (s.removeBelow bound) drawn
      (kept.filter fun i => bound ≤ (nth asks i).now.micros) where
  coherent := k.coherent.removeBelow bound
  scoring p := by
    rw [k.coherent.scoring_removeBelow, k.scoring, Finset.filter_filter]
    simp only [Bool.and_eq_true, decide_eq_true_eq]
  named member scored := by
    refine k.named member fun absent => scored ?_
    rw [k.coherent.score?_removeBelow, absent, Option.filter_none]

/-- A member with a new name is one more request. -/
theorem add (k : Keeps asks s drawn kept) {n : ℕ} (new : n ∉ kept) {origin sequence : UInt64}
    (fresh : ((nth asks n).now.micros, origin, sequence) ∉ drawn) :
    Keeps asks
      (s.add (nth asks n).now.micros
        (MemberNames.name (nth asks n).now.micros origin sequence))
      (insert ((nth asks n).now.micros, origin, sequence) drawn) (insert n kept) where
  coherent := k.coherent.add _ _
  scoring p := by
    have absent : s.score? (MemberNames.name (nth asks n).now.micros origin sequence) = none := by
      by_contra scored
      obtain ⟨micros, origin', sequence', found, same⟩ := k.named _ scored
      obtain ⟨rfl, rfl, rfl⟩ := MemberNames.name_inj.1 same
      exact fresh found
    rw [k.coherent.scoring_add absent, k.scoring, Finset.filter_insert]
    split
    · rw [Finset.card_insert_of_notMem fun among => new (Finset.mem_filter.1 among).1]
    · rfl
  named member scored := by
    rw [SortedSet.score?_add] at scored
    split at scored
    · rename_i own
      exact ⟨_, _, _, Set.mem_insert _ _, own.symm⟩
    · obtain ⟨micros, origin', sequence', found, own⟩ := k.named member scored
      exact ⟨micros, origin', sequence', Set.mem_insert_of_mem _ found, own⟩

/-- **A request adds its own member, and drops what its window does not reach, if it passes.** It
passes if fewer members than its limit are in its window. -/
theorem tryAdmit (k : Keeps asks s drawn kept) {n : ℕ} (new : n ∉ kept) {origin sequence : UInt64}
    (fresh : ((nth asks n).now.micros, origin, sequence) ∉ drawn) {grace : Span}
    (inRange : ∀ i ∈ insert n kept, (nth asks i).InRange grace) {boundary : Instant}
    (moved : (nth asks n).now.shift? (-(nth asks n).window.nanos) = some boundary) :
    let answer := s.tryAdmit boundary.micros (nth asks n).now.micros (nth asks n).limit
      (MemberNames.name (nth asks n).now.micros origin sequence)
    answer.2 = decide ((kept.filter fun i => (nth asks n).Reaches (nth asks i)).card <
        (nth asks n).limit) ∧
      Keeps asks answer.1 (insert ((nth asks n).now.micros, origin, sequence) drawn)
        (if answer.2 then (insert n kept).filter fun i =>
          (nth asks n).oldest ≤ (nth asks i).now.nanos else kept) := by
  have own := inRange n (Finset.mem_insert_self n kept)
  have begins := (Instant.shift?_eq_some_iff.1 moved).1
  -- In whole microseconds the scores tell the times.
  have scored : ∀ i ∈ insert n kept, boundary.micros ≤ (nth asks i).now.micros ↔
      (nth asks n).oldest ≤ (nth asks i).now.nanos := fun i member =>
    Ask.le_micros_iff own (inRange i member) begins
  have seen : s.count boundary.micros (nth asks n).now.micros =
      (kept.filter fun i => (nth asks n).Reaches (nth asks i)).card := by
    rw [SortedSet.count_eq_scoring, k.scoring]
    refine congrArg Finset.card (Finset.filter_congr fun i member => ?_)
    have among := Finset.mem_insert_of_mem (b := n) member
    rw [Bool.and_eq_true, decide_eq_true_eq, decide_eq_true_eq, scored i among,
      Ask.micros_le_iff own (inRange i among), Ask.Reaches]
  simp only [SortedSet.tryAdmit, seen]
  split
  · rename_i full
    refine ⟨by simp [full], ?_⟩
    simpa using k.mono (Set.subset_insert _ _)
  · rename_i room
    refine ⟨by simpa using room, ?_⟩
    have rest := (k.add new fresh).removeBelow boundary.micros
    rw [Finset.filter_congr scored] at rest
    simpa using rest

end Keeps

/-! ## One more request -/

section Step

variable {grace : Span} {asks : List Ask} {decisions : List Bool}

/-- No request is forgotten before it is made. -/
theorem not_forgotten_self (grace : Span) (asks : List Ask) (decisions : List Bool) (j : ℕ) :
    ¬Forgotten grace asks decisions j j := by
  rintro ⟨m, before, after, -⟩
  omega

/-- What is remembered after one more request: what was before, and the request itself if it passed,
save what a request that passed drops, and all of it unless the next one comes in time. -/
theorem mem_remembered_succ {passed : Bool} {i : ℕ} :
    i ∈ remembered grace asks (decisions ++ [passed]) (decisions.length + 1) ↔
      (i ∈ remembered grace asks decisions decisions.length ∨
        i = decisions.length ∧ passed = true) ∧
      (passed = true → (nth asks decisions.length).oldest ≤ (nth asks i).now.nanos) ∧
      (nth asks (decisions.length + 1)).now.nanos < (nth asks decisions.length).deadline grace := by
  have last : (decisions ++ [passed])[decisions.length]? = some passed := by simp
  simp only [remembered, Finset.mem_filter, Finset.mem_range, forgotten_succ, last,
    forgotten_append passed (le_refl _), Option.some.injEq]
  rcases lt_trichotomy i decisions.length with before | rfl | after
  · rw [List.getElem?_append_left before]
    grind
  · have self := not_forgotten_self grace asks decisions decisions.length
    have own : (nth asks decisions.length).oldest ≤ (nth asks decisions.length).now.nanos := by
      simp only [Ask.oldest]
      omega
    grind
  · grind

/-- A time at which a request is made can be read, and so can the default one after the last. -/
theorem readable_nth (inRange : ∀ a ∈ asks, a.InRange grace) (i : ℕ) :
    (nth asks i).now.Representable := by
  rcases lt_or_ge i asks.length with within | outside
  · rw [nth_eq within]
    exact (inRange _ (List.getElem_mem within)).readable
  · rw [nth, List.getD_eq_default _ _ outside]
    decide

variable {origin : UInt64} {key : String} {l : SharedSlidingWindow} {store : Store}

/-- The names that were drawn for the first `n` requests. -/
def names (origin : UInt64) (asks : List Ask) (n : ℕ) : List (Int × UInt64 × UInt64) :=
  MemberNames.drawn origin ((asks.take n).map fun a => a.now.micros)

theorem map_take_succ {n : ℕ} (within : n < asks.length) :
    (asks.take (n + 1)).map (fun a => a.now.micros) =
      (asks.take n).map (fun a => a.now.micros) ++ [(nth asks n).now.micros] := by
  rw [List.take_add_one, List.getElem?_eq_getElem within, Option.toList_some, List.map_append,
    nth_eq within, List.map_singleton]

theorem names_succ {n : ℕ} (within : n < asks.length) :
    names origin asks (n + 1) =
      names origin asks n ++ [((nth asks n).now.micros, origin, UInt64.ofNat n)] := by
  rw [names, map_take_succ within, MemberNames.drawn_append_singleton, List.length_map,
    List.length_take_of_le within.le, names]

/-- A request has a name that was not drawn before. -/
theorem notMem_names (ordered : asks.Pairwise fun a b => a.now ≤ b.now)
    (paced : ∀ micros, (asks.map fun a => a.now.micros).count micros ≤ 2 ^ 64) {n : ℕ}
    (within : n < asks.length) :
    ((nth asks n).now.micros, origin, UInt64.ofNat n) ∉ names origin asks n := by
  have fresh := @MemberNames.notMem_drawn origin ((asks.take n).map fun a => a.now.micros)
    (nth asks n).now.micros
  rw [← map_take_succ within, List.length_map, List.length_take_of_le within.le] at fresh
  refine fresh ?_ ?_
  · exact List.pairwise_map.2 ((ordered.sublist (List.take_sublist _ _)).imp
      Instant.micros_le_micros)
  · exact (((List.take_sublist _ _).map _).count_le _).trans (paced _)

/-- Requests on a key have been answered as they should be, and the key has a member for each one
that is remembered. -/
structure Served (grace : Span) (origin : UInt64) (asks : List Ask) (key : String)
    (decisions : List Bool) (l : SharedSlidingWindow) (store : Store) : Prop where
  graced : l.grace = grace
  members : l.members = ⟨origin, UInt64.ofNat decisions.length⟩
  available : store.available = true
  held : ∃ s deadline,
    Store.Holds (store.live (nth asks decisions.length).now) key s deadline ∧
      Keeps asks s {d | d ∈ names origin asks decisions.length}
        (remembered grace asks decisions decisions.length)
  decided : ∀ j < decisions.length, decisions[j]? =
    some (decide ((counted grace asks decisions j).card < (nth asks j).limit))

/-- A key keeps its members until the deadline that the request has set. -/
theorem exists_holds_live {a : Ask} {lifetime : Span} {s : SortedSet} {next : Instant}
    (span : lifetime.nanos = a.window.nanos + grace.nanos) (readable : a.now.Representable)
    (later : next.Representable)
    (holds : Store.Holds store.slots key s (a.now.after? lifetime)) :
    (next.nanos < a.deadline grace →
      Store.Holds (store.live next) key s (a.now.after? lifetime)) ∧
    (a.deadline grace ≤ next.nanos → Store.Holds (store.live next) key ∅ none) := by
  refine ⟨fun before => holds.live fun d ends => ?_, fun late => ?_⟩
  · have moved := (Instant.shift?_eq_some_iff.1 ends).1
    simp only [Ask.deadline] at before
    exact Instant.lt_def.2 (by omega)
  · refine Store.holds_of_absent (holds.get?_live_eq_none fun before => ?_) none
    simp only [Ask.deadline] at late
    have ends : a.now.after? lifetime = some ⟨a.now.nanos + lifetime.nanos⟩ := by
      refine Instant.shift?_eq_some_iff.2 ⟨rfl, ?_⟩
      have first := Instant.le_def.1 readable.1
      have last := Instant.le_def.1 later.2
      exact ⟨Instant.le_def.2 (by simp only; omega), Instant.le_def.2 (by simp only; omega)⟩
    have ahead := Instant.lt_def.1 (before _ ends)
    simp only at ahead
    omega

/-- When the next request is made, a key has a member for each request that is remembered then. -/
theorem exists_held {drawn : Set (Int × UInt64 × UInt64)} {lifetime : Span} {s : SortedSet}
    {passed : Bool} (inRange : ∀ a ∈ asks, a.InRange grace)
    (span : lifetime.nanos = (nth asks decisions.length).window.nanos + grace.nanos)
    (holds : Store.Holds store.slots key s ((nth asks decisions.length).now.after? lifetime))
    (keeps : Keeps asks s drawn (if passed then
      (insert decisions.length (remembered grace asks decisions decisions.length)).filter fun i =>
        (nth asks decisions.length).oldest ≤ (nth asks i).now.nanos
      else remembered grace asks decisions decisions.length)) :
    ∃ s deadline,
      Store.Holds (store.live (nth asks (decisions.length + 1)).now) key s deadline ∧
        Keeps asks s drawn
          (remembered grace asks (decisions ++ [passed]) (decisions.length + 1)) := by
  obtain ⟨alive, gone⟩ :=
    exists_holds_live span (readable_nth inRange _) (readable_nth inRange (decisions.length + 1))
      holds
  rcases lt_or_ge (nth asks (decisions.length + 1)).now.nanos
    ((nth asks decisions.length).deadline grace) with before | late
  · refine ⟨s, _, alive before, ?_⟩
    convert keeps using 1
    ext i
    rw [mem_remembered_succ]
    cases passed
    · simp [before]
    · simp [before, or_comm]
  · refine ⟨∅, none, gone late, ?_⟩
    have none : remembered grace asks (decisions ++ [passed]) (decisions.length + 1) = ∅ :=
      Finset.eq_empty_of_forall_notMem fun i member =>
        absurd (mem_remembered_succ.1 member).2.2 (not_lt.2 late)
    rw [none]
    exact .empty asks drawn

/-- **One more request** counts what is remembered in its window. -/
theorem Served.shouldAllow (α : Type) [Arithmetic α]
    (served : Served grace origin asks key decisions l store)
    (inRange : ∀ a ∈ asks, a.InRange grace) (ordered : asks.Pairwise fun a b => a.now ≤ b.now)
    (paced : ∀ micros, (asks.map fun a => a.now.micros).count micros ≤ 2 ^ 64)
    (within : decisions.length < asks.length) :
    ∃ l' store' passed, l.shouldAllow (Store.context α (nth asks decisions.length).now) store key
        (nth asks decisions.length).window (nth asks decisions.length).limit =
          .ok ((l', store'), .ok passed) ∧
      Served grace origin asks key (decisions ++ [passed]) l' store' := by
  obtain ⟨s, deadline, holds, keeps⟩ := served.held
  set n := decisions.length with size
  have inRange' : ∀ i < asks.length, (nth asks i).InRange grace := fun i inside =>
    nth_eq inside ▸ inRange _ (List.getElem_mem inside)
  have own := inRange' n within
  obtain ⟨boundary, moved⟩ := Option.isSome_iff_exists.1 own.reaches
  obtain ⟨lifetime, lasts⟩ := Option.isSome_iff_exists.1 own.lasts
  have serves : l.Serves ⟨(nth asks n).limit, (nth asks n).window⟩ (nth asks n).now boundary
      lifetime :=
    ⟨own.readable, Span.window?_eq_ok_iff.2 ⟨rfl, own.isWindow⟩, moved, own.positive, own.limit_lt,
      by rw [served.graced]; exact lasts⟩
  obtain ⟨store', answered, available, slots⟩ :=
    l.request_eq α serves served.available holds.sortedSetAt_eq holds.coherent
  have name : (l.members.next (nth asks n).now.micros).2 =
      MemberNames.name (nth asks n).now.micros origin (UInt64.ofNat n) := by
    rw [served.members]
    rfl
  rw [name] at answered slots
  have new : n ∉ remembered grace asks decisions n := by simp [remembered]
  obtain ⟨decides, keeps'⟩ := keeps.tryAdmit new (notMem_names ordered paced within)
    (fun i member => inRange' i (by
      rcases Finset.mem_insert.1 member with rfl | among
      · exact within
      · exact (Finset.mem_range.1 (Finset.mem_filter.1 among).1).trans within)) moved
  set answer := s.tryAdmit boundary.micros (nth asks n).now.micros (nth asks n).limit
    (MemberNames.name (nth asks n).now.micros origin (UInt64.ofNat n))
  have valid : SlidingWindow.Config.validate ⟨(nth asks n).limit, (nth asks n).window⟩ = .ok () :=
    SlidingWindow.Config.validate_eq_ok_iff.2 ⟨own.positive, own.isWindow⟩
  refine ⟨{ l with members := (l.members.next (nth asks n).now.micros).1 }, store', answer.2,
    ?_, ?_⟩
  · rw [SharedSlidingWindow.shouldAllow]
    simp only [valid, answered]
  have longer : (decisions ++ [answer.2]).length = n + 1 := by simp [size]
  refine ⟨served.graced, ?_, available, ?_, ?_⟩
  · rw [longer, served.members]
    exact MemberNames.next_ofNat origin n (nth asks n).now.micros
  · rw [longer]
    have slot := slots key
    rw [if_pos rfl] at slot
    have holds' : Store.Holds store'.slots key answer.1 ((nth asks n).now.after? lifetime) :=
      ⟨keeps'.coherent, .inl slot⟩
    obtain ⟨s', deadline', held', kept⟩ := exists_held inRange
      (Span.plus?_eq_some_iff.1 lasts).1 holds' keeps'
    refine ⟨s', deadline', held', kept.mono ?_⟩
    rintro d (rfl | drawn)
    · simp [names_succ within]
    · exact (names_succ within ▸ List.mem_append_left _ drawn : d ∈ names origin asks (n + 1))
  · intro j before
    rw [longer, Nat.lt_succ_iff_lt_or_eq] at before
    rcases before with earlier | rfl
    · rw [counted_append _ earlier.le, List.getElem?_append_left earlier]
      exact served.decided j earlier
    · rw [counted_append _ (le_refl _), List.getElem?_concat_length, decides, counted_eq]

end Step

/-! ## Runs -/

section Runs

variable {α : Type} [Arithmetic α] {grace : Span} {asks : List Ask} {params : SlidingWindow.Config}
  {origin : UInt64} {timeout : Option Span} {l : SharedSlidingWindow}

/-- Requests are answered as they should be, for as many of them as there are. -/
theorem exists_served (created : create? params origin timeout grace = .ok l) (key : String)
    (inRange : ∀ a ∈ asks, a.InRange grace) (ordered : asks.Pairwise fun a b => a.now ≤ b.now)
    (paced : ∀ micros, (asks.map fun a => a.now.micros).count micros ≤ 2 ^ 64) {n : ℕ}
    (within : n ≤ asks.length) :
    ∃ decisions l' store', decisions.length = n ∧
      Limiter.drive ((.sharedSlidingWindow l : Limiter α), ∅) ((asks.take n).map (Ask.call key)) =
        .ok ((.sharedSlidingWindow l', store'), decisions.map fun passed => .ok (some passed)) ∧
      Served grace origin asks key decisions l' store' := by
  obtain ⟨-, -, members, graced⟩ := create?_eq_ok created
  induction n with
  | zero =>
    refine ⟨[], l, ∅, rfl, rfl, graced, members, rfl,
      ⟨∅, none, Store.holds_of_absent rfl none, ?_⟩,
      fun j before => absurd before (Nat.not_lt_zero j)⟩
    exact .empty asks _
  | succ n ih =>
    obtain ⟨decisions, l', store', rfl, ran, served⟩ := ih (Nat.le_of_succ_le within)
    obtain ⟨l'', store'', passed, answered, served'⟩ :=
      served.shouldAllow α inRange ordered paced within
    refine ⟨decisions ++ [passed], l'', store'', by simp, ?_, served'⟩
    have stepped : Limiter.step (Store.context α (nth asks decisions.length).now)
        ((.sharedSlidingWindow l' : Limiter α), store')
        (.shouldAllow key (nth asks decisions.length).window (nth asks decisions.length).limit) =
          .ok ((.sharedSlidingWindow l'', store''), .ok (some passed)) := by
      simp only [Limiter.step, Limiter.shouldAllow?, answered]
      rfl
    rw [List.take_add_one, List.getElem?_eq_getElem within, Option.toList_some, List.map_append,
      List.map_append, ← nth_eq within]
    exact Limiter.drive_append_singleton ran stepped

/-- **A request with a window of its own passes if it counts fewer than its limit.** It counts the
requests in its window that passed and are not forgotten; and these are all that passed and lie in
its window, if no window before was shorter. -/
theorem drive_shouldAllow (created : create? params origin timeout grace = .ok l)
    (graced : 0 < grace.nanos) (key : String) (inRange : ∀ a ∈ asks, a.InRange grace)
    (ordered : asks.Pairwise fun a b => a.now ≤ b.now)
    (paced : ∀ micros, (asks.map fun a => a.now.micros).count micros ≤ 2 ^ 64) :
    ∃ last decisions,
      Limiter.drive ((.sharedSlidingWindow l : Limiter α), ∅) (asks.map (Ask.call key)) =
        .ok (last, decisions.map fun passed => .ok (some passed)) ∧
      decisions.length = asks.length ∧
      ∀ j (within : j < asks.length),
        (decisions[j]? = some true ↔ (counted grace asks decisions j).card < asks[j].limit) ∧
        ((∀ i (before : i < j), asks[j].window.nanos ≤ asks[i].window.nanos) →
          (decisions[j]? = some true ↔ (recent asks decisions j).card < asks[j].limit)) := by
  obtain ⟨decisions, l', store', size, ran, served⟩ :=
    exists_served (α := α) created key inRange ordered paced (le_refl asks.length)
  rw [List.take_length] at ran
  refine ⟨_, decisions, ran, size, fun j within => ?_⟩
  have decided := served.decided j (size ▸ within)
  rw [← nth_eq within]
  have counts : decisions[j]? = some true ↔
      (counted grace asks decisions j).card < (nth asks j).limit := by
    rw [decided, Option.some_inj, decide_eq_true_eq]
  refine ⟨counts, fun shortest => ?_⟩
  have all : counted grace asks decisions j = recent asks decisions j := by
    refine Finset.filter_true_of_mem fun i member => ?_
    refine not_forgotten_of_window_le graced within ordered (fun m before => ?_)
      (Finset.mem_filter.1 member).2.2.1
    rw [nth_eq (before.trans within)]
    exact shortest m before
  rw [counts, all]

end Runs

/-- Requests with a window of ten seconds, then one of one second, and then ten seconds again. -/
def mixed : List Ask :=
  [⟨.ofParts 1700000000 0, .ofSeconds 10, 5⟩, ⟨.ofParts 1700000005 0, .ofSeconds 1, 5⟩,
    ⟨.ofParts 1700000005 0, .ofSeconds 10, 2⟩]

theorem inRange_mixed : ∀ a ∈ mixed, a.InRange defaultGrace := by
  simp only [mixed, List.forall_mem_cons, List.not_mem_nil, false_imp_iff, implies_true, and_true]
  refine ⟨?_, ?_, ?_⟩ <;> constructor <;> decide

theorem paced_mixed (micros : Int) : (mixed.map fun a => a.now.micros).count micros ≤ 2 ^ 64 :=
  List.count_le_length.trans (by decide)

/-- The third request counts what the second one has left. -/
theorem drive_mixed :
    ∃ l last decisions, create? ⟨1, .ofSeconds 1⟩ 0 none defaultGrace = .ok l ∧
      Limiter.drive ((.sharedSlidingWindow l : Limiter ℚ), ∅) (mixed.map (Ask.call "k")) =
        .ok (last, decisions.map fun passed => .ok (some passed)) ∧
      (decisions[2]? = some true ↔ (counted defaultGrace mixed decisions 2).card < 2) := by
  obtain ⟨l, created⟩ : ∃ l, create? ⟨1, .ofSeconds 1⟩ 0 none defaultGrace = .ok l := ⟨_, rfl⟩
  obtain ⟨last, decisions, ran, -, decided⟩ :=
    drive_shouldAllow (α := ℚ) created (by decide) "k" inRange_mixed (by decide) paced_mixed
  exact ⟨l, last, decisions, created, ran, (decided 2 (by decide)).1⟩

/-- The third request passes, although two requests that passed lie in its window, which is its
limit: the second one made the store forget the first. -/
theorem drive_mixed_forgets :
    ∃ l last decisions, create? ⟨1, .ofSeconds 1⟩ 0 none defaultGrace = .ok l ∧
      Limiter.drive ((.sharedSlidingWindow l : Limiter ℚ), ∅) (mixed.map (Ask.call "k")) =
        .ok (last, decisions.map fun passed => .ok (some passed)) ∧
      ¬(decisions[2]? = some true ↔ (recent mixed decisions 2).card < 2) := by
  obtain ⟨l, created⟩ : ∃ l, create? ⟨1, .ofSeconds 1⟩ 0 none defaultGrace = .ok l := ⟨_, rfl⟩
  obtain ⟨decisions, l', store', size, ran, served⟩ :=
    exists_served (α := ℚ) created "k" inRange_mixed (by decide) paced_mixed (le_refl mixed.length)
  have few : ∀ j, (counted defaultGrace mixed decisions j).card ≤ j := fun j =>
    ((Finset.card_filter_le _ _).trans (Finset.card_filter_le _ _)).trans (Finset.card_range j).le
  have first : decisions[0]? = some true := by
    rw [served.decided 0 (by rw [size]; decide), decide_eq_true ((few 0).trans_lt (by decide))]
  have second : decisions[1]? = some true := by
    rw [served.decided 1 (by rw [size]; decide), decide_eq_true ((few 1).trans_lt (by decide))]
  -- The window of the second request does not reach the first one.
  have forgotten : Forgotten defaultGrace mixed decisions 0 2 :=
    ⟨1, by decide, by decide, .inl ⟨second, by decide⟩⟩
  have one : (counted defaultGrace mixed decisions 2).card ≤ 1 := by
    refine Finset.card_le_one_iff_subset_singleton.2 ⟨1, fun i member => ?_⟩
    obtain ⟨among, kept⟩ := Finset.mem_filter.1 member
    have before := Finset.mem_range.1 (Finset.mem_filter.1 among).1
    obtain rfl | rfl : i = 0 ∨ i = 1 := by omega
    · exact absurd forgotten kept
    · exact Finset.mem_singleton_self 1
  have third : decisions[2]? = some true := by
    rw [served.decided 2 (by rw [size]; decide), decide_eq_true (one.trans_lt (by decide))]
  have both : ({0, 1} : Finset ℕ) ⊆ recent mixed decisions 2 := by
    intro i member
    rcases Finset.mem_insert.1 member with rfl | second'
    · exact Finset.mem_filter.2 ⟨by decide, first, by decide⟩
    · obtain rfl := Finset.mem_singleton.1 second'
      exact Finset.mem_filter.2 ⟨by decide, second, by decide⟩
  refine ⟨l, _, decisions, created, ran, fun passes => ?_⟩
  have two := Finset.card_le_card both
  have less := passes.1 third
  have size : ({0, 1} : Finset ℕ).card = 2 := rfl
  omega

end SharedSlidingWindow

end Throttle
