import Mathlib.Data.List.Induction
import Throttle.Proofs.Arithmetic.Exact
import Throttle.Proofs.Shared.Request

/-!
# The lifetime of a key of the shared sliding log

Every request of the shared sliding log whose boundaries are resolved gives its key a new lifetime,
whether it passes or not: a grace beyond the length of the window for a trailing request, and beyond
the right boundary for one in a fixed window. The new deadline takes the place of the old one even
if it is the earlier of the two, and so a unit can expire while it is still counted. It is in the
store for as long as every request comes before the deadline that the one before it has set. If all
requests are trailing, this is as long as a unit is in the window.

## Main definitions

* `SharedSlidingLog.Visit`: a request whose boundaries were resolved, with the deadline that it set
* `SharedSlidingLog.journal`: a limiter and a store after requests on a key, with the visits
* `SharedSlidingLog.Lasts`: the units of a visit have outlived the visits since
* `SharedSlidingLog.Journaled`: the key has the units of those that last

## Main results

* `SharedSlidingLog.exists_request`: what a request does to the members of its key
* `SharedSlidingLog.Journaled.allow`: every request keeps the units that last
* `SharedSlidingLog.lasts_of_trailing`: the units that trailing requests reach have lasted
* `SharedSlidingLog.stored_of_lasts`: which units are in the store, and when the key is gone
* `SharedSlidingLog.expired_unit`: a unit that expires while it is counted
-/

namespace Throttle

namespace Store

/-- A key has members until a deadline, or it has none. -/
structure Holds (slots : Table Slot) (key : String) (members : SortedSet)
    (deadline : Option Instant) : Prop where
  coherent : members.Coherent
  slot : slots.get? key = some ⟨.sortedSet members, deadline⟩ ∨
    slots.get? key = none ∧ members = ∅

theorem holds_of_absent {slots : Table Slot} {key : String} (absent : slots.get? key = none)
    (deadline : Option Instant) : Holds slots key ∅ deadline :=
  ⟨SortedSet.coherent_empty, .inr ⟨absent, rfl⟩⟩

namespace Holds

variable {slots : Table Slot} {store : Store} {key : String} {members : SortedSet}
  {deadline : Option Instant} {now : Instant}

theorem sortedSetAt_eq (h : Holds slots key members deadline) :
    sortedSetAt slots key = .ok members := by
  rcases h.slot with held | ⟨absent, rfl⟩
  · rw [sortedSetAt, held, Option.map_some]
  · rw [sortedSetAt, absent, Option.map_none]

/-- Before the deadline the key has its members. -/
theorem live (h : Holds store.slots key members deadline)
    (before : ∀ d, deadline = some d → now < d) :
    Holds (store.live now) key members deadline := by
  refine ⟨h.coherent, ?_⟩
  rcases h.slot with held | ⟨absent, none⟩
  · rw [get?_live, held, Option.filter_some, if_pos (Slot.isLive_iff.2 before)]
    exact .inl rfl
  · rw [get?_live, absent, Option.filter_none]
    exact .inr ⟨rfl, none⟩

/-- From the deadline on the key is gone. -/
theorem get?_live_eq_none (h : Holds store.slots key members deadline)
    (late : ¬∀ d, deadline = some d → now < d) : (store.live now).get? key = none := by
  rcases h.slot with held | ⟨absent, -⟩
  · rw [get?_live, held, Option.filter_some, if_neg (late ∘ Slot.isLive_iff.1)]
  · rw [get?_live, absent, Option.filter_none]

/-- The removal of what has expired hides no members. -/
theorem purge (h : Holds (store.live now) key members deadline) :
    Holds ((store.purge now).live now) key members deadline := by
  refine ⟨h.coherent, ?_⟩
  have same : ((store.purge now).live now).get? key = (store.live now).get? key :=
    slot?_purge store now key
  rw [same]
  exact h.slot

/-- A new lifetime moves the deadline of whatever members there are. -/
theorem expire (h : Holds (store.live now) key members deadline)
    (available : store.available = true) (lifetime : Span) :
    Holds (store.expire now key lifetime).1.slots key members (now.after? lifetime) := by
  refine ⟨h.coherent, ?_⟩
  rcases h.slot with held | ⟨absent, none⟩
  · rw [get?_expire available held, if_pos rfl]
    exact .inl rfl
  · simp only [Store.expire, available, if_true, absent]
    exact .inr ⟨trivial, none⟩

end Holds

end Store

/-- A request keeps a member that its left boundary has not passed, or scores it anew. -/
theorem SortedSet.score?_tryAdd {s : SortedSet} (coherent : s.Coherent) {left right now : Int}
    {limit : Nat} {names : List String} {member : String} {score : Int}
    (held : s.score? member = some score) (reached : left ≤ score) :
    (s.tryAdd left right now limit names).1.score? member = some score ∨
      member ∈ names ∧ (s.tryAdd left right now limit names).1.score? member = some now := by
  have kept : (s.removeBelow left).score? member = some score := by
    rw [coherent.score?_removeBelow, held, Option.filter_some, if_pos (decide_eq_true reached)]
  unfold tryAdd
  dsimp only
  split
  · exact .inl kept
  · rw [score?_addAll]
    split
    · rename_i named
      exact .inr ⟨named, rfl⟩
    · exact .inl kept

/-- A request that passes scores its own names. -/
theorem SortedSet.score?_tryAdd_of_mem {s : SortedSet} {left right now : Int} {limit : Nat}
    {names : List String} (passed : (s.tryAdd left right now limit names).2 = true)
    {member : String} (named : member ∈ names) :
    (s.tryAdd left right now limit names).1.score? member = some now := by
  unfold tryAdd at passed ⊢
  dsimp only at passed ⊢
  split at passed
  · cases passed
  · rename_i room
    rw [if_neg room, score?_addAll, if_pos named]

/-- A request on an empty set passes. -/
theorem SortedSet.tryAdd_empty (left right now : Int) {limit : Nat} (positive : 0 < limit)
    (names : List String) : ((∅ : SortedSet).tryAdd left right now limit names).2 = true := by
  have none : ((∅ : SortedSet).removeBelow left).count left right = 0 := by
    rw [count_eq_scoring, coherent_empty.scoring_removeBelow, scoring_empty]
  unfold tryAdd
  dsimp only
  rw [none, if_neg (by omega)]

namespace SharedSlidingLog

/-! ## One request -/

section Request

variable {l : SharedSlidingLog} {params : SlidingLog.Config} {o : AllowOptions}
  {now left right : Instant} {lifetime : Span} {store : Store} {key : String} {members : SortedSet}
  {deadline : Option Instant}

/-- What a request does to the members of its key: those that its left boundary has not passed stay,
and its units join them if it passes. They get a new deadline whatever the outcome. -/
theorem exists_request (α : Type) [Arithmetic α]
    (resolved : o.windowBounds now params.window.nanos params.fixedWindow = .ok (.ok (left, right)))
    (readable : now.Representable ∧ left.Representable ∧ right.Representable)
    (positive : 0 < params.limit)
    (lasts : (countedFor o params.window now right).plus? l.grace = some lifetime)
    (available : store.available = true)
    (holds : Store.Holds (store.live now) key members deadline) :
    ∃ store' outcome members', l.request (Store.context α now) store key params o =
        .ok (({ l with members := (l.members.next now.micros).1 }, store'), outcome) ∧
      store'.available = true ∧ Store.Holds store'.slots key members' (now.after? lifetime) ∧
      (∀ unit micros, members.score? unit = some micros → left.micros ≤ micros →
        members'.score? unit = some micros ∨
          unit ∈ Store.unitNames (l.members.next now.micros).2 o.weight ∧
            members'.score? unit = some now.micros) ∧
      (outcome = .ok true → ∀ unit ∈ Store.unitNames (l.members.next now.micros).2 o.weight,
        members'.score? unit = some now.micros) := by
  obtain ⟨hnow, hleft, hright⟩ := readable
  by_cases small : params.limit < 2 ^ 63 ∧ o.weight < 2 ^ 63
  · obtain ⟨store', answered, available', slots⟩ := request_eq_within α
      ⟨resolved, hnow, hleft, hright, positive, small.1, small.2, lasts⟩ available
      holds.sortedSetAt_eq holds.coherent
    have slot := slots key
    rw [if_pos rfl] at slot
    exact ⟨store', _, _, answered, available', ⟨holds.coherent.tryAdd _ _ _ _ _, .inl slot⟩,
      fun _ _ => SortedSet.score?_tryAdd holds.coherent,
      fun passed _ => SortedSet.score?_tryAdd_of_mem (Except.ok.inj passed)⟩
  -- A script that refuses its arguments leaves the members as they are.
  · obtain ⟨e, refused⟩ := Store.exists_recordUnits_eq_error hleft hright hnow (store.live now) key
      (l.members.next now.micros).2 small
    have evaluates := Store.eval_slidingLog_refused α available refused
    refine ⟨((store.purge now).expire now key lifetime).1, .error (.store e), members, ?_, ?_,
      holds.purge.expire available lifetime, fun _ _ held _ => .inl held, fun passed => ?_⟩
    · simp only [request, Store.now_context, resolved, Store.eval_context, evaluates, lasts,
        Store.refresh_context, Except.bind]
    · rw [Store.available_expire]
      exact available
    · cases passed

end Request

/-! ## Visits -/

/-- A request by key whose boundaries were resolved. -/
structure Visit where
  now : Instant
  left : Instant
  /-- The instant from which the key is gone, if no other request comes before. -/
  deadline : Option Instant
  /-- The names of the request's units. -/
  units : List String
  outcome : Except LimiterError Bool

/-- The visit of a request, if its boundaries are resolved. -/
def visit? (l : SharedSlidingLog) (key : String) (now : Instant) (o : AllowOptions)
    (outcome : Except LimiterError Bool) : Option Visit :=
  let params := l.keyed.state key
  match o.windowBounds now params.window.nanos params.fixedWindow with
  | .ok (.ok (left, right)) =>
    some {
      now := now
      left := left
      deadline := now.after? ⟨(countedFor o params.window now right).nanos + l.grace.nanos⟩
      units := Store.unitNames (l.members.next now.micros).2 o.weight
      outcome := outcome }
  | _ => none

/-- A limiter and a store after a request on a key, with the visits, the newest first. -/
def act (α : Type) [Arithmetic α] (key : String)
    (s : (SharedSlidingLog × Store) × List Visit) (call : Instant × AllowOptions) :
    Except Fault ((SharedSlidingLog × Store) × List Visit) :=
  (s.1.1.allow (Store.context α call.1) s.1.2 key call.2).map fun (state, outcome) =>
    (state, (s.1.1.visit? key call.1 call.2 outcome).toList ++ s.2)

/-- A limiter and a store after requests on a key, with the visits. A fault ends the run. -/
def journal (α : Type) [Arithmetic α] (key : String) (l : SharedSlidingLog) (store : Store)
    (calls : List (Instant × AllowOptions)) :
    Except Fault ((SharedSlidingLog × Store) × List Visit) :=
  calls.foldlM (act α key) ((l, store), [])

theorem act_eq_ok {α : Type} [Arithmetic α] {key : String} {l : SharedSlidingLog} {store : Store}
    {state : SharedSlidingLog × Store} {call : Instant × AllowOptions}
    {outcome : Except LimiterError Bool}
    (allowed : l.allow (Store.context α call.1) store key call.2 = .ok (state, outcome))
    (visits : List Visit) :
    act α key ((l, store), visits) call =
      .ok (state, (l.visit? key call.1 call.2 outcome).toList ++ visits) := by
  rw [act, allowed]
  rfl

theorem journal_append_singleton (α : Type) [Arithmetic α] (key : String) (l : SharedSlidingLog)
    (store : Store) (calls : List (Instant × AllowOptions)) (call : Instant × AllowOptions) :
    journal α key l store (calls ++ [call]) =
      (journal α key l store calls).bind fun s => act α key s call := by
  simp only [journal, List.foldlM_append, List.foldlM_cons, List.foldlM_nil, bind_pure]
  rfl

/-- The deadline that the newest visit has set lies ahead. -/
def Alive (visits : List Visit) (now : Instant) : Prop :=
  ∀ deadline, visits.head?.bind Visit.deadline = some deadline → now < deadline

/-- The units of a visit have outlived the visits since: each came before the deadline that the one
before it had set, and its left boundary had not passed them. -/
def Lasts (v : Visit) : List Visit → Prop
  | [] => False
  | w :: older => v = w ∨ Lasts v older ∧ Alive older w.now ∧ w.left ≤ v.now

/-- The units of a visit are in a store, scored with the time of the visit. -/
def Visit.Stored (v : Visit) (store : Store) (key : String) (now : Instant) : Prop :=
  ∃ members, Store.sortedSetAt (store.live now) key = .ok members ∧
    ∀ unit ∈ v.units, members.score? unit = some v.now.micros

/-- A request stays within the ranges of what it computes with. -/
structure InRange (c : SlidingLog.Config) (grace : Span) (call : Instant × AllowOptions) :
    Prop where
  readable : call.1.Representable
  resolves : ∃ answer, call.2.windowBounds call.1 c.window.nanos c.fixedWindow = .ok answer
  bounded : ∀ left right,
    call.2.windowBounds call.1 c.window.nanos c.fixedWindow = .ok (.ok (left, right)) →
      left.Representable ∧ right.Representable ∧
        ((countedFor call.2 c.window call.1 right).plus? grace).isSome

theorem InRange.of_resolved {c : SlidingLog.Config} {grace : Span} {call : Instant × AllowOptions}
    {left right : Instant}
    (resolved : call.2.windowBounds call.1 c.window.nanos c.fixedWindow = .ok (.ok (left, right)))
    (inside : call.1.Representable ∧ left.Representable ∧ right.Representable ∧
      ((countedFor call.2 c.window call.1 right).plus? grace).isSome) : InRange c grace call where
  readable := inside.1
  resolves := ⟨_, resolved⟩
  bounded _ _ again := by
    cases resolved.symm.trans again
    exact inside.2

/-- A visit belongs to a request of a limiter with the given parameters and origin. -/
structure Visit.Answers (v : Visit) (c : SlidingLog.Config) (grace : Span) (origin : UInt64)
    (call : Instant × AllowOptions) : Prop where
  now_eq : v.now = call.1
  resolved : ∃ right, call.2.windowBounds v.now c.window.nanos c.fixedWindow =
      .ok (.ok (v.left, right)) ∧
    v.deadline = v.now.after? ⟨(countedFor call.2 c.window v.now right).nanos + grace.nanos⟩
  named : ∃ sequence,
    v.units = Store.unitNames (MemberNames.name v.now.micros origin sequence) call.2.weight

/-- Requests on a key have left a limiter and a store with visits: the key has the units of those
that last, until the deadline that the newest has set. -/
structure Journaled (c : SlidingLog.Config) (grace : Span) (origin : UInt64) (key : String)
    (calls : List (Instant × AllowOptions)) (l : SharedSlidingLog) (store : Store)
    (visits : List Visit) : Prop where
  params : l.keyed.state key = c
  graced : l.grace = grace
  origin_eq : l.members.origin = origin
  available : store.available = true
  held : ∃ members, Store.Holds store.slots key members (visits.head?.bind Visit.deadline) ∧
    ∀ v, Lasts v visits → v.outcome = .ok true →
      ∀ unit ∈ v.units, members.score? unit = some v.now.micros
  answers : ∀ v ∈ visits, ∃ call ∈ calls, v.Answers c grace origin call
  order : (visits.map Visit.now).Sublist (calls.map Prod.fst).reverse

theorem Lasts.mem {v : Visit} {visits : List Visit} (lasts : Lasts v visits) : v ∈ visits := by
  induction visits with
  | nil => exact lasts.elim
  | cons w older ih =>
    rcases lasts with rfl | ⟨lasts, -⟩
    · exact List.mem_cons_self
    · exact List.mem_cons_of_mem _ (ih lasts)

namespace Journaled

variable {c : SlidingLog.Config} {grace : Span} {origin : UInt64} {key : String}
  {calls : List (Instant × AllowOptions)} {l : SharedSlidingLog} {store : Store}
  {visits : List Visit}

theorem start (params : l.keyed.state key = c) (graced : l.grace = grace)
    (origin_eq : l.members.origin = origin) (available : store.available = true)
    (absent : store.slots.get? key = none) : Journaled c grace origin key [] l store [] where
  params := params
  graced := graced
  origin_eq := origin_eq
  available := available
  held := ⟨∅, Store.holds_of_absent absent _, fun _ lasts => lasts.elim⟩
  answers _ member := by cases member
  order := .slnil

theorem get?_live_eq_none (j : Journaled c grace origin key calls l store visits) {now : Instant}
    (late : ¬Alive visits now) : (store.live now).get? key = none := by
  obtain ⟨members, holds, -⟩ := j.held
  exact holds.get?_live_eq_none late

/-- At any time a key has the units that last, or its deadline has passed. -/
theorem live (j : Journaled c grace origin key calls l store visits) (now : Instant) :
    ∃ members deadline, Store.Holds (store.live now) key members deadline ∧
      (Alive visits now → ∀ v, Lasts v visits → v.outcome = .ok true →
        ∀ unit ∈ v.units, members.score? unit = some v.now.micros) := by
  by_cases alive : Alive visits now
  · obtain ⟨members, holds, scored⟩ := j.held
    exact ⟨members, _, holds.live alive, fun _ => scored⟩
  · exact ⟨∅, none, Store.holds_of_absent (j.get?_live_eq_none alive) none,
      fun now => absurd now alive⟩

theorem stored (j : Journaled c grace origin key calls l store visits) {now : Instant}
    (alive : Alive visits now) {v : Visit} (lasts : Lasts v visits)
    (passed : v.outcome = .ok true) : v.Stored store key now := by
  obtain ⟨members, deadline, holds, scored⟩ := j.live now
  exact ⟨members, holds.sortedSetAt_eq, scored alive v lasts passed⟩

theorem exists?_eq_false (j : Journaled c grace origin key calls l store visits) {now : Instant}
    (late : ¬Alive visits now) : store.exists? now key = false := by
  rw [Store.exists?, Store.slot?, j.get?_live_eq_none late, Option.isSome_none]

/-- A request whose boundaries are not resolved is no visit. -/
theorem skip (j : Journaled c grace origin key calls l store visits)
    (call : Instant × AllowOptions) :
    Journaled c grace origin key (calls ++ [call]) { l with keyed := (l.keyed.obtain key).1 } store
      visits where
  params := by rw [Keyed.state_obtain, j.params]
  graced := j.graced
  origin_eq := j.origin_eq
  available := j.available
  held := j.held
  answers v member := by
    obtain ⟨earlier, found, answers⟩ := j.answers v member
    exact ⟨earlier, List.mem_append_left _ found, answers⟩
  order := by
    rw [List.map_append, List.reverse_append]
    exact j.order.trans (List.sublist_append_right _ _)

/-- **Every request keeps the units that last.** It is answered, and if its boundaries are resolved
it is one more visit. -/
theorem allow (α : Type) [Arithmetic α] (j : Journaled c grace origin key calls l store visits)
    (positive : 0 < c.limit) {call : Instant × AllowOptions} (inRange : InRange c grace call) :
    ∃ l' store' outcome, l.allow (Store.context α call.1) store key call.2 =
        .ok ((l', store'), outcome) ∧
      Journaled c grace origin key (calls ++ [call]) l' store'
        ((l.visit? key call.1 call.2 outcome).toList ++ visits) := by
  obtain ⟨now, o⟩ := call
  obtain ⟨answer, resolves⟩ := inRange.resolves
  simp only [allow_eq, visit?, j.params, resolves]
  cases answer with
  -- Without boundaries the store is not asked.
  | error e =>
    refine ⟨{ l with keyed := (l.keyed.obtain key).1 }, store, .error e, ?_, ?_⟩
    · simp only [request, Store.now_context, resolves]
    · exact j.skip (now, o)
  | ok bounds =>
    obtain ⟨left, right⟩ := bounds
    obtain ⟨hleft, hright, fits⟩ := inRange.bounded left right resolves
    obtain ⟨lifetime, lasts⟩ := Option.isSome_iff_exists.1 fits
    obtain ⟨members, deadline, holds, scored⟩ := j.live now
    obtain ⟨store', outcome, members', answered, available', holds', keeps, passes⟩ :=
      exists_request α (l := { l with keyed := (l.keyed.obtain key).1 }) resolves
        ⟨inRange.readable, hleft, hright⟩ positive (by rw [j.graced]; exact lasts) j.available holds
    have length : Span.mk ((countedFor o c.window now right).nanos + l.grace.nanos) = lifetime := by
      rw [j.graced, ← (Span.plus?_eq_some_iff.1 lasts).1]
    refine ⟨_, store', outcome, answered, ?_⟩
    rw [Option.toList_some, List.singleton_append, length]
    -- The parameters and the earlier visits are those of a request without a visit.
    have skipped := j.skip (now, o)
    refine ⟨skipped.params, j.graced, j.origin_eq, available', ⟨members', holds', ?_⟩, ?_, ?_⟩
    · rintro v (rfl | ⟨before, alive, reached⟩) passed unit named
      · exact passes passed unit named
      · -- A unit of the same name would be one of the same microsecond.
        rcases keeps unit _ (scored alive v before passed unit named)
          (Instant.micros_le_micros reached) with kept | ⟨again, anew⟩
        · exact kept
        · obtain ⟨_, _, answers⟩ := j.answers v before.mem
          obtain ⟨sequence, units⟩ := answers.named
          rw [units] at named
          rw [anew, (Store.eq_of_mem_unitNames again named).1]
    · intro v member
      rcases List.mem_cons.1 member with rfl | earlier
      · refine ⟨(now, o), by simp, rfl, ⟨right, resolves, ?_⟩, l.members.sequence, ?_⟩
        · rw [← length, j.graced]
        · rw [← j.origin_eq]
          rfl
      · exact skipped.answers v earlier
    · rw [List.map_append, List.reverse_append]
      exact j.order.cons_cons now

/-- A request that finds its key gone passes. -/
theorem allow_of_absent (α : Type) [Arithmetic α]
    (j : Journaled c grace origin key calls l store visits)
    (bounds : 0 < c.limit ∧ c.limit < 2 ^ 63) {call : Instant × AllowOptions}
    (absent : (store.live call.1).get? key = none) (inRange : InRange c grace call)
    {left right : Instant}
    (resolved : call.2.windowBounds call.1 c.window.nanos c.fixedWindow = .ok (.ok (left, right)))
    (light : call.2.weight < 2 ^ 63) :
    ∃ s, l.allow (Store.context α call.1) store key call.2 = .ok (s, .ok true) := by
  obtain ⟨hleft, hright, fits⟩ := inRange.bounded left right resolved
  obtain ⟨lifetime, lasts⟩ := Option.isSome_iff_exists.1 fits
  have serves : SharedSlidingLog.ServesWithin { l with keyed := (l.keyed.obtain key).1 } c call.2
      call.1 left right lifetime :=
    ⟨resolved, inRange.readable, hleft, hright, bounds.1, bounds.2, light,
      by rw [j.graced]; exact lasts⟩
  have holds := Store.holds_of_absent absent none
  obtain ⟨store', answered, -⟩ :=
    request_eq_within α serves j.available holds.sortedSetAt_eq holds.coherent
  rw [allow_eq, j.params, answered,
    SortedSet.tryAdd_empty left.micros right.micros call.1.micros bounds.1]
  exact ⟨_, rfl⟩

end Journaled

/-! ## Runs -/

section Runs

variable {c : SlidingLog.Config} {origin : UInt64} {timeout : Option Span} {grace : Span}
  {l : SharedSlidingLog} {store : Store} {key : String} {calls : List (Instant × AllowOptions)}
  {visits : List Visit} {v : Visit} {now : Instant}

/-- Requests within their ranges are all answered. -/
theorem exists_journaled (α : Type) [Arithmetic α]
    (created : create? c origin timeout grace = .ok l) (available : store.available = true)
    (absent : store.slots.get? key = none)
    (inRange : ∀ call ∈ calls, InRange c grace call) :
    ∃ s visits, journal α key l store calls = .ok (s, visits) ∧
      Journaled c grace origin key calls s.1 s.2 visits := by
  obtain ⟨valid, state, members, graced⟩ := create?_eq_ok created
  have positive := (SlidingLog.Config.validate_eq_ok_iff.1 valid).1
  induction calls using List.reverseRecOn with
  | nil => exact ⟨_, _, rfl, .start (state key) graced (by rw [members]; rfl) available absent⟩
  | append_singleton calls call ih =>
    obtain ⟨s, visits, ran, j⟩ := ih fun earlier member =>
      inRange earlier (List.mem_append_left _ member)
    obtain ⟨l', store', outcome, allowed, j'⟩ := j.allow α positive (inRange call (by simp))
    refine ⟨(l', store'), _, ?_, j'⟩
    rw [journal_append_singleton, ran, Except.bind, act_eq_ok allowed]

/-- Visits whose left boundaries trail them and whose deadlines lie ahead of them by constant spans,
the newest first: the units that the next request reaches have lasted. -/
theorem lasts_of_trailing {length reach : Int}
    (trails : ∀ w ∈ visits, w.left.nanos = w.now.nanos - length ∧
      ∀ d, w.deadline = some d → d.nanos = w.now.nanos + reach)
    (order : visits.Pairwise fun later earlier => earlier.now ≤ later.now) (member : v ∈ visits)
    (latest : ∀ w ∈ visits, w.now ≤ now) (reached : now.nanos - length ≤ v.now.nanos)
    (before : now.nanos < v.now.nanos + reach) : Lasts v visits ∧ Alive visits now := by
  induction visits generalizing now with
  | nil => cases member
  | cons w older ih =>
    obtain ⟨upTo, order⟩ := List.pairwise_cons.1 order
    obtain ⟨left, deadline⟩ := trails w List.mem_cons_self
    have recent := Instant.le_def.1 (latest w List.mem_cons_self)
    have sooner : v.now.nanos ≤ w.now.nanos := by
      rcases List.mem_cons.1 member with rfl | earlier
      · exact Int.le_refl _
      · exact upTo v earlier
    refine ⟨?_, fun d set => ?_⟩
    · rcases List.mem_cons.1 member with rfl | earlier
      · exact .inl rfl
      -- The next visit after it was itself such a request.
      · obtain ⟨lasted, alive⟩ := ih (fun w member => trails w (List.mem_cons_of_mem _ member))
          order earlier upTo (by omega) (by omega)
        exact .inr ⟨lasted, alive, Instant.le_def.2 (by omega)⟩
    · have ends := deadline d set
      exact Instant.lt_def.2 (by omega)

/-- The visits of trailing requests. -/
theorem Visit.Answers.trails {call : Instant × AllowOptions}
    (answers : v.Answers c grace origin call) (trailing : call.2.fixedWindow = false) :
    v.left.nanos = v.now.nanos - c.window.nanos ∧
      ∀ d, v.deadline = some d → d.nanos = v.now.nanos + (c.window.nanos + grace.nanos) := by
  obtain ⟨right, resolved, deadline⟩ := answers.resolved
  obtain ⟨moved, -⟩ := (AllowOptions.windowBounds_trailing trailing).1 resolved
  refine ⟨(Instant.shift?_eq_some_iff.1 moved).1, fun d set => ?_⟩
  rw [set] at deadline
  have ends := (Instant.shift?_eq_some_iff.1 deadline.symm).1
  rw [ends]
  simp [countedFor, trailing]

/-- **The lifetime of a key.** Requests on a new key are all answered. A unit that was accepted is
in the store at a later time for as long as each request since came before the deadline that the one
before it had set, and no left boundary lay to its right; from the newest deadline on the key is
gone, whatever could still be counted. If all requests are trailing, a unit is in the store while it
is in the window, its left end excepted if there is no grace. -/
theorem stored_of_lasts (α : Type) [Arithmetic α]
    (created : create? c origin timeout grace = .ok l) (available : store.available = true)
    (absent : store.slots.get? key = none)
    (inRange : ∀ call ∈ calls, InRange c grace call) :
    ∃ s visits, journal α key l store calls = .ok (s, visits) ∧
      (∀ now, Alive visits now → ∀ v, Lasts v visits → v.outcome = .ok true →
        v.Stored s.2 key now) ∧
      (∀ now, ¬Alive visits now → s.2.exists? now key = false) ∧
      ((∀ call ∈ calls, call.2.fixedWindow = false) →
        (calls.map Prod.fst).Pairwise (· ≤ ·) → ∀ now, (∀ call ∈ calls, call.1 ≤ now) →
          ∀ v ∈ visits, v.outcome = .ok true → now.nanos - c.window.nanos ≤ v.now.nanos →
            now.nanos < v.now.nanos + (c.window.nanos + grace.nanos) → v.Stored s.2 key now) := by
  obtain ⟨s, visits, ran, j⟩ := exists_journaled α created available absent inRange
  refine ⟨s, visits, ran, fun now alive v lasts passed => j.stored alive lasts passed,
    fun now late => j.exists?_eq_false late, ?_⟩
  intro trailing ordered now latest v member passed reached before
  have trails : ∀ w ∈ visits, w.left.nanos = w.now.nanos - c.window.nanos ∧
      ∀ d, w.deadline = some d → d.nanos = w.now.nanos + (c.window.nanos + grace.nanos) := by
    intro w member
    obtain ⟨call, found, answers⟩ := j.answers w member
    exact answers.trails (trailing call found)
  have order : visits.Pairwise fun later earlier => earlier.now ≤ later.now := by
    rw [← List.pairwise_reverse] at ordered
    exact List.pairwise_map.1 (ordered.sublist j.order)
  have upTo : ∀ w ∈ visits, w.now ≤ now := by
    intro w member
    obtain ⟨call, found, answers⟩ := j.answers w member
    rw [answers.now_eq]
    exact latest call found
  obtain ⟨lasts, alive⟩ := lasts_of_trailing trails order member upTo reached before
  exact j.stored alive lasts passed

end Runs

/-! ## A unit that expires too soon -/

/-- One request in a thousand seconds. -/
def scarce : SlidingLog.Config := ⟨1, .ofSeconds 1000, none⟩

/-- A fixed window that ends soon. -/
def brief : FixedWindow where
  left := .ofParts 1699999990 0
  right := .ofParts 1700000015 0
  left_lt_right := by decide

/-- A trailing request. -/
def early : Instant × AllowOptions := (.ofParts 1700000000 0, {})

/-- A request in the fixed window, ten seconds later. -/
def hasty : Instant × AllowOptions := (.ofParts 1700000010 0, AllowOptions.within {} brief)

/-- A trailing request, a hundred seconds after the first. -/
def late : Instant × AllowOptions := (.ofParts 1700000100 0, {})

theorem windowBounds_early : early.2.windowBounds early.1 scarce.window.nanos scarce.fixedWindow =
    .ok (.ok (.ofParts 1699999000 0, early.1)) := rfl

theorem windowBounds_hasty : hasty.2.windowBounds hasty.1 scarce.window.nanos scarce.fixedWindow =
    .ok (.ok (brief.left, brief.right)) := rfl

theorem windowBounds_late : late.2.windowBounds late.1 scarce.window.nanos scarce.fixedWindow =
    .ok (.ok (.ofParts 1699999100 0, late.1)) := rfl

theorem inRange_early : InRange scarce defaultGrace early :=
  .of_resolved windowBounds_early (by decide)

theorem inRange_hasty : InRange scarce defaultGrace hasty :=
  .of_resolved windowBounds_hasty (by decide)

/-- The visit of the first trailing request, if it passes. -/
def earlyVisit (units : List String) : Visit :=
  ⟨early.1, .ofParts 1699999000 0, some (.ofParts 1700001060 0), units, .ok true⟩

/-- The visit of the request in the fixed window. -/
def hastyVisit (units : List String) (outcome : Except LimiterError Bool) : Visit :=
  ⟨hasty.1, brief.left, some (.ofParts 1700000075 0), units, outcome⟩

section Scarce

variable {l : SharedSlidingLog} (created : create? scarce 0 none defaultGrace = .ok l)

include created

/-- The trailing request passes. -/
theorem exists_journaled_early :
    ∃ s units, journal ℚ "key" l ∅ [early] = .ok (s, [earlyVisit units]) ∧
      Journaled scarce defaultGrace 0 "key" [early] s.1 s.2 [earlyVisit units] := by
  obtain ⟨-, state, members, graced⟩ := create?_eq_ok created
  have j : Journaled scarce defaultGrace 0 "key" [] l ∅ [] :=
    .start (state "key") graced (by rw [members]; rfl) rfl rfl
  obtain ⟨l', store', outcome, allowed, j'⟩ := j.allow ℚ Nat.one_pos inRange_early
  obtain ⟨s, passed⟩ := j.allow_of_absent ℚ (by decide) rfl inRange_early windowBounds_early
    (by decide)
  obtain ⟨rfl, rfl⟩ : (l', store') = s ∧ outcome = .ok true :=
    Prod.mk.inj (Except.ok.inj (allowed.symm.trans passed))
  have visited : l.visit? "key" early.1 early.2 (.ok true) =
      some (earlyVisit (Store.unitNames (l.members.next early.1.micros).2 1)) := by
    rw [visit?, state "key", graced]
    rfl
  have acted := act_eq_ok allowed []
  rw [visited] at acted j'
  refine ⟨(l', store'), _, ?_, j'⟩
  rw [← List.nil_append [early], journal_append_singleton]
  exact acted

/-- The request in the fixed window sets an earlier deadline. -/
theorem exists_journaled_hasty {s : SharedSlidingLog × Store} {visits : List Visit}
    (ran : journal ℚ "key" l ∅ [early] = .ok (s, visits)) :
    ∃ s' outcome units,
      journal ℚ "key" l ∅ [early, hasty] = .ok (s', hastyVisit units outcome :: visits) ∧
      Journaled scarce defaultGrace 0 "key" [early, hasty] s'.1 s'.2
        (hastyVisit units outcome :: visits) := by
  obtain ⟨⟨l', store'⟩, _, again, j⟩ :=
    exists_journaled ℚ created rfl (rfl : (∅ : Store).slots.get? "key" = none)
      (List.forall_mem_singleton.2 inRange_early)
  cases ran.symm.trans again
  obtain ⟨l'', store'', outcome, allowed, j'⟩ := j.allow ℚ Nat.one_pos inRange_hasty
  have visited : l'.visit? "key" hasty.1 hasty.2 outcome =
      some (hastyVisit (Store.unitNames (l'.members.next hasty.1.micros).2 1) outcome) := by
    rw [visit?, j.params, j.graced]
    rfl
  have acted := act_eq_ok allowed visits
  rw [visited] at acted j'
  refine ⟨(l'', store''), outcome, _, ?_, j'⟩
  rw [← List.singleton_append, journal_append_singleton, ran]
  exact acted

end Scarce

/-- Fifty seconds after the trailing request its unit is in the store, and after a hundred seconds
the key is gone. Without the other request the unit is there for as long as the window. -/
theorem stored_until_hasty :
    ∃ l s s' v w, create? scarce 0 none defaultGrace = .ok l ∧
      journal ℚ "key" l ∅ [early, hasty] = .ok (s, [w, v]) ∧
      v.Stored s.2 "key" (.ofParts 1700000050 0) ∧
      s.2.exists? late.1 "key" = false ∧
      journal ℚ "key" l ∅ [early] = .ok (s', [v]) ∧
      v.Stored s'.2 "key" (.ofParts 1700001000 0) := by
  obtain ⟨l, created⟩ : ∃ l, create? scarce 0 none defaultGrace = .ok l := ⟨_, rfl⟩
  obtain ⟨s', units, ran', -⟩ := exists_journaled_early created
  obtain ⟨s, outcome, units', ran, -⟩ := exists_journaled_hasty created ran'
  have absent : (∅ : Store).slots.get? "key" = none := rfl
  have inRange : ∀ call ∈ [early, hasty], InRange scarce defaultGrace call := by
    simp [inRange_early, inRange_hasty]
  obtain ⟨_, _, again, stored, gone, -⟩ := stored_of_lasts ℚ created rfl absent inRange
  cases ran.symm.trans again
  obtain ⟨_, _, again', -, -, trailing⟩ := stored_of_lasts ℚ created rfl absent
    (List.forall_mem_singleton.2 inRange_early)
  cases ran'.symm.trans again'
  refine ⟨l, s, s', _, _, created, ran, ?_, ?_, ran', ?_⟩
  · refine stored _ ?_ _ (.inr ⟨.inl rfl, ?_, (by decide : brief.left ≤ early.1)⟩) rfl
    · rintro deadline ⟨rfl⟩
      decide
    · rintro deadline ⟨rfl⟩
      exact (by decide : hasty.1 < .ofParts 1700001060 0)
  · exact gone _ fun alive => absurd (alive _ rfl) (by decide)
  · refine trailing (List.forall_mem_singleton.2 rfl) (List.pairwise_singleton _ _) _
      (List.forall_mem_singleton.2 (by decide)) _ List.mem_cons_self rfl ?_ ?_
    · exact (by decide : (1700001000 * 1000000000 - scarce.window.nanos : Int) ≤ early.1.nanos)
    · exact (by decide : (1700001000 * 1000000000 : Int) <
        early.1.nanos + (scarce.window.nanos + defaultGrace.nanos))

/-- **A unit expires while it is counted.** After a hundred seconds a trailing request counts from
before the unit of the first, and no left boundary has passed the unit. But the request in the fixed
window has set a deadline that is over by then: the key is gone, and a limit of one request in a
thousand seconds lets a second one pass. -/
theorem expired_unit :
    ∃ l s s' v w left, create? scarce 0 none defaultGrace = .ok l ∧
      journal ℚ "key" l ∅ [early, hasty] = .ok (s, [w, v]) ∧ v.outcome = .ok true ∧
      late.2.windowBounds late.1 scarce.window.nanos scarce.fixedWindow =
        .ok (.ok (left, late.1)) ∧
      left ≤ v.now ∧ v.now ≤ late.1 ∧ w.left ≤ v.now ∧ v.left ≤ v.now ∧
      s.2.exists? late.1 "key" = false ∧
      s.1.allow (Store.context ℚ late.1) s.2 "key" late.2 = .ok (s', .ok true) := by
  obtain ⟨l, created⟩ : ∃ l, create? scarce 0 none defaultGrace = .ok l := ⟨_, rfl⟩
  obtain ⟨_, units, ran, -⟩ := exists_journaled_early created
  obtain ⟨s, outcome, units', ran, j⟩ := exists_journaled_hasty created ran
  have gone : ¬Alive [hastyVisit units' outcome, earlyVisit units] late.1 := fun alive =>
    absurd (alive _ rfl) (by decide)
  obtain ⟨s', passed⟩ := j.allow_of_absent ℚ (by decide) (j.get?_live_eq_none gone)
    (.of_resolved windowBounds_late (by decide)) windowBounds_late (by decide)
  have reached : Instant.ofParts 1699999100 0 ≤ early.1 ∧ early.1 ≤ late.1 ∧
      brief.left ≤ early.1 ∧ .ofParts 1699999000 0 ≤ early.1 := by decide
  exact ⟨l, s, s', _, _, _, created, ran, rfl, windowBounds_late, reached.1, reached.2.1,
    reached.2.2.1, reached.2.2.2, j.exists?_eq_false gone, passed⟩

end SharedSlidingLog

end Throttle
