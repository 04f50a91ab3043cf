import Mathlib.Data.List.Induction
import Mathlib.Logic.Function.Basic
import Throttle.Arithmetic.Double
import Throttle.Proofs.Shared.Tracking

/-!
# Many limiters over one store

Shared sliding logs of one store decide together. Each of them keeps its own parameters and draws
its own names; what they accept meets in the sorted set of the key. Whichever of them a request goes
to, it finds there every request that its window reaches, whoever accepted it. So the limit is one
of all limiters together, in windows of nanoseconds as well.

## Main definitions

* `Fleet`: limiters that agree on the limit and the window
* `Cluster`: limiters and their store
* `Cluster.run`: a cluster after a sequence of requests, with a journal of what they came to
* `Cluster.accepted`: the requests for a key that were accepted
* `Cluster.Coordinated`: what holds of a cluster with the journal of its requests

## Main results

* `Cluster.Coordinated.exists_leaves`: a request is answered, and the store follows it
* `Cluster.Coordinated.after`, `Cluster.Coordinated.step`: a request keeps a cluster coordinated
* `Cluster.exists_coordinated`: every sequence of requests is served
* `Cluster.unitsWithin_accepted_le`: what a window holds of the requests that were accepted
-/

namespace Throttle

/-- Limiters of one limit and one window, each with an origin of its own. -/
structure Fleet (ι : Type) (limit : Nat) (window : Span) where
  params : ι → SlidingLog.Config
  origin : ι → UInt64
  timeout : ι → Option Span
  /-- The graces by which a key outlives the window. -/
  grace : ι → Span
  limiters : ι → SharedSlidingLog
  created : ∀ i, SharedSlidingLog.create? (params i) (origin i) (timeout i) (grace i) =
    .ok (limiters i)
  limit_eq : ∀ i, (params i).limit = limit
  window_eq : ∀ i, (params i).window = window
  limit_lt : limit < 2 ^ 63
  origin_injective : Function.Injective origin
  graced : ∀ i, 0 < (grace i).nanos
  lasts : ∀ i, (window.plus? (grace i)).isSome

namespace Fleet

variable {ι : Type} {limit : Nat} {window : Span}

/-- What holds of a limiter of a fleet after requests at the given times in microseconds. -/
structure Belongs (fleet : Fleet ι limit window) (i : ι) (times : List Int)
    (l : SharedSlidingLog) : Prop where
  limit_eq : ∀ key, (l.keyed.state key).limit = limit
  window_eq : ∀ key, (l.keyed.state key).window = window
  members : l.members = ⟨fleet.origin i, UInt64.ofNat times.length⟩
  grace : l.grace = fleet.grace i

theorem belongs_limiters (fleet : Fleet ι limit window) (i : ι) :
    Belongs fleet i [] (fleet.limiters i) := by
  obtain ⟨-, state, members, grace⟩ := SharedSlidingLog.create?_eq_ok (fleet.created i)
  exact ⟨fun key => by rw [state key]; exact fleet.limit_eq i,
    fun key => by rw [state key]; exact fleet.window_eq i, members, grace⟩

/-- A request draws the next name and changes no parameters. -/
theorem Belongs.afterRequest {fleet : Fleet ι limit window} {i : ι} {times : List Int}
    {l : SharedSlidingLog} (b : fleet.Belongs i times l) (key : String) (now : Instant) :
    fleet.Belongs i (times ++ [now.micros]) (l.afterRequest key now) where
  limit_eq key' := by rw [SharedSlidingLog.state_afterRequest, b.limit_eq]
  window_eq key' := by rw [SharedSlidingLog.state_afterRequest, b.window_eq]
  members := by
    rw [SharedSlidingLog.members_afterRequest, b.members, MemberNames.next_ofNat,
      List.length_append, List.length_singleton]
  grace := b.grace

theorem limit_pos (fleet : Fleet ι limit window) (i : ι) : 0 < limit := by
  obtain ⟨valid, -⟩ := SharedSlidingLog.create?_eq_ok (fleet.created i)
  rw [← fleet.limit_eq i]
  exact (SlidingLog.Config.validate_eq_ok_iff.1 valid).1

end Fleet

/-- Limiters and the store that they share. -/
structure Cluster (ι : Type) where
  limiters : ι → SharedSlidingLog
  store : Store

namespace Cluster

/-- A request to one of the limiters. -/
structure Request (ι : Type) where
  now : Instant
  limiter : ι
  key : String
  options : AllowOptions

/-- A trailing request for a weight and at a time that are within their ranges. -/
structure Request.Served {ι : Type} (window : Span) (r : Request ι) : Prop where
  trailing : r.options.fixedWindow = false
  weight_lt : r.options.weight < 2 ^ 63
  readable : r.now.Representable
  reaches : (r.now.shift? (-window.nanos)).isSome

instance {ι : Type} (window : Span) (r : Request ι) : Decidable (r.Served window) :=
  decidable_of_iff (r.options.fixedWindow = false ∧ r.options.weight < 2 ^ 63 ∧
      r.now.Representable ∧ (r.now.shift? (-window.nanos)).isSome)
    ⟨fun ⟨a, b, c, d⟩ => ⟨a, b, c, d⟩, fun ⟨a, b, c, d⟩ => ⟨a, b, c, d⟩⟩

/-- Requests with what they came to. -/
abbrev Journal (ι : Type) := List (Request ι × Except LimiterError Bool)

variable {ι : Type} {limit : Nat} {window : Span}

/-- The requests for a key that were accepted, with their units. -/
def accepted (key : String) (journal : Journal ι) : List (Instant × Nat) :=
  journal.filterMap fun
    | (r, .ok true) => if r.key = key then some (r.now, r.options.weight) else none
    | _ => none

/-- What was accepted is among the requests. -/
theorem exists_of_mem_accepted {key : String} {journal : Journal ι} {e : Instant × Nat}
    (h : e ∈ accepted key journal) :
    ∃ r ∈ journal.map Prod.fst, e = (r.now, r.options.weight) := by
  obtain ⟨⟨r, outcome⟩, member, kept⟩ := List.mem_filterMap.1 h
  refine ⟨r, List.mem_map_of_mem member, ?_⟩
  split at kept
  · rename_i same
    cases same
    split at kept
    · exact (Option.some.inj kept).symm
    · cases kept
  · cases kept

theorem accepted_append_singleton (key : String) (journal : Journal ι) (r : Request ι)
    (passed : Bool) :
    accepted key (journal ++ [(r, .ok passed)]) =
      accepted key journal ++
        if r.key = key then (if passed then [(r.now, r.options.weight)] else []) else [] := by
  rw [accepted, List.filterMap_append]
  cases passed <;> by_cases own : r.key = key <;> simp [accepted, own]

variable [DecidableEq ι]

/-- The cluster of new limiters over a store without keys. -/
def ofFleet (fleet : Fleet ι limit window) : Cluster ι := ⟨fleet.limiters, ∅⟩

/-- The cluster after a request that left the store behind. -/
def after (c : Cluster ι) (r : Request ι) (store : Store) : Cluster ι where
  limiters := Function.update c.limiters r.limiter
    ((c.limiters r.limiter).afterRequest r.key r.now)
  store := store

/-- The cluster after a request, and the outcome. The clock is read and the script run as one step,
and the lifetime of the key is renewed before the next one. -/
def step (α : Type) [Arithmetic α] (c : Cluster ι) (r : Request ι) :
    Except Fault (Cluster ι × Except LimiterError Bool) :=
  ((c.limiters r.limiter).allow (Store.context α r.now) c.store r.key r.options).map
    fun ((l, store), outcome) => (⟨Function.update c.limiters r.limiter l, store⟩, outcome)

/-- A cluster after a sequence of requests, and their journal. A fault ends the run. -/
def run (α : Type) [Arithmetic α] (c : Cluster ι) (requests : List (Request ι)) :
    Except Fault (Cluster ι × Journal ι) :=
  requests.foldlM (fun (c, journal) r => (step α c r).map fun (c, outcome) =>
    (c, journal ++ [(r, outcome)])) (c, [])

theorem run_append_singleton (α : Type) [Arithmetic α] (c : Cluster ι) (requests : List (Request ι))
    (r : Request ι) :
    run α c (requests ++ [r]) = (run α c requests).bind fun (c, journal) =>
      (step α c r).map fun (c, outcome) => (c, journal ++ [(r, outcome)]) := by
  simp only [run, List.foldlM_append, List.foldlM_cons, List.foldlM_nil, bind_pure]
  rfl

/-- The times in microseconds of the requests to a limiter. -/
def times (i : ι) (requests : List (Request ι)) : List Int :=
  (requests.filter fun r => r.limiter = i).map fun r => r.now.micros

theorem times_append_singleton (i : ι) (requests : List (Request ι)) (r : Request ι) :
    times i (requests ++ [r]) =
      times i requests ++ if r.limiter = i then [r.now.micros] else [] := by
  by_cases own : r.limiter = i <;> simp [times, own]

theorem ordered_times (i : ι) {requests : List (Request ι)}
    (ordered : (requests.map Request.now).Pairwise (· ≤ ·)) :
    (times i requests).Pairwise (· ≤ ·) := by
  rw [List.pairwise_map] at ordered
  exact (ordered.filter _).map _ fun _ _ before => Instant.micros_le_micros before

/-- The names that the limiters have drawn for requests. -/
def drawn (fleet : Fleet ι limit window) (requests : List (Request ι)) :
    Set (Int × UInt64 × UInt64) :=
  {d | ∃ i, d ∈ MemberNames.drawn (fleet.origin i) (times i requests)}

/-- The name that a limiter draws for a request. -/
def draw (fleet : Fleet ι limit window) (requests : List (Request ι)) (r : Request ι) :
    Int × UInt64 × UInt64 :=
  (r.now.micros, fleet.origin r.limiter, UInt64.ofNat (times r.limiter requests).length)

theorem insert_draw_subset (fleet : Fleet ι limit window) (requests : List (Request ι))
    (r : Request ι) :
    insert (draw fleet requests r) (drawn fleet requests) ⊆ drawn fleet (requests ++ [r]) := by
  rintro d (rfl | ⟨i, member⟩)
  · refine ⟨r.limiter, ?_⟩
    rw [times_append_singleton, if_pos rfl, MemberNames.drawn_append_singleton]
    exact List.mem_append_right _ (List.mem_singleton_self _)
  · refine ⟨i, ?_⟩
    rw [times_append_singleton]
    split
    · rw [MemberNames.drawn_append_singleton]
      exact List.mem_append_left _ member
    · rwa [List.append_nil]

/-- No limiter has drawn the name of a new request: others have other origins, and its own limiter
has not come round to its number. -/
theorem draw_notMem_drawn (fleet : Fleet ι limit window) {requests : List (Request ι)}
    {r : Request ι} (ordered : ((requests ++ [r]).map Request.now).Pairwise (· ≤ ·))
    (paced : (times r.limiter (requests ++ [r])).count r.now.micros ≤ 2 ^ 64) :
    draw fleet requests r ∉ drawn fleet requests := by
  rintro ⟨i, member⟩
  -- The name would be one of the same limiter, at an earlier request.
  obtain rfl := fleet.origin_injective (MemberNames.origin_of_mem_drawn member)
  have inOrder := ordered_times r.limiter ordered
  rw [times_append_singleton, if_pos rfl] at inOrder paced
  exact MemberNames.notMem_drawn _ inOrder paced member

/-! ## Coordination -/

/-- What holds of a cluster with the journal of its requests: every limiter belongs to the fleet,
the store follows the accepted requests of every key, and these are spaced by the limit. -/
structure Coordinated (fleet : Fleet ι limit window) (c : Cluster ι) (journal : Journal ι) :
    Prop where
  available : c.store.available = true
  belongs : ∀ i, fleet.Belongs i (times i (journal.map Prod.fst)) (c.limiters i)
  follows : ∀ key now, (∀ r ∈ journal.map Prod.fst, r.now ≤ now) →
    SharedSlidingLog.Follows ((c.store.live now).get? key) (drawn fleet (journal.map Prod.fst))
      window.nanos now (accepted key journal)
  spaced : ∀ key, SlidingLog.Spaced limit window.nanos (accepted key journal)
  answered : ∀ entry ∈ journal, ∃ passed, entry.2 = .ok passed

theorem coordinated_ofFleet (fleet : Fleet ι limit window) :
    Coordinated fleet (ofFleet fleet) [] where
  available := rfl
  belongs := fleet.belongs_limiters
  follows _ now _ := .empty _ _ now
  spaced _ := .nil
  answered entry member := by cases member

namespace Coordinated

variable {fleet : Fleet ι limit window} {c : Cluster ι} {journal : Journal ι} {r : Request ι}

theorem length_eq (h : Coordinated fleet c journal) (i : ι) (key : String) :
    ((c.limiters i).keyed.state key).window.nanos = window.nanos := by
  rw [(h.belongs i).window_eq]

/-- The limiter of a request can serve it. -/
theorem exists_serves (h : Coordinated fleet c journal) (served : r.Served window) :
    ∃ left lifetime, (c.limiters r.limiter).Serves ((c.limiters r.limiter).keyed.state r.key)
      r.options r.now left lifetime := by
  have own := h.belongs r.limiter
  obtain ⟨left, reaches⟩ := Option.isSome_iff_exists.1 served.reaches
  obtain ⟨lifetime, lasts⟩ := Option.isSome_iff_exists.1 (fleet.lasts r.limiter)
  refine ⟨left, lifetime, served.trailing, served.readable, ?_, ?_, ?_, served.weight_lt, ?_⟩
  · rw [own.window_eq]
    exact reaches
  · rw [own.limit_eq]
    exact fleet.limit_pos r.limiter
  · rw [own.limit_eq]
    exact fleet.limit_lt
  · rw [own.window_eq, own.grace]
    exact lasts

/-- The limiter of a request draws its name. -/
theorem draw_eq (h : Coordinated fleet c journal) (r : Request ι) :
    (r.now.micros, (c.limiters r.limiter).members.origin,
      (c.limiters r.limiter).members.sequence) = draw fleet (journal.map Prod.fst) r := by
  rw [(h.belongs r.limiter).members]
  rfl

/-- A request is answered, and what it leaves behind follows what all limiters have accepted. -/
theorem exists_leaves (α : Type) [Arithmetic α] (h : Coordinated fleet c journal)
    (served : r.Served window) (latest : ∀ q ∈ journal.map Prod.fst, q.now ≤ r.now)
    (fresh : draw fleet (journal.map Prod.fst) r ∉ drawn fleet (journal.map Prod.fst)) :
    ∃ store' passed left kept,
      Cluster.step α c r = .ok (c.after r store', .ok passed) ∧
      r.now.shift? (-window.nanos) = some left ∧
      (c.limiters r.limiter).Leaves ((c.limiters r.limiter).keyed.state r.key) r.options r.now left
        (drawn fleet (journal.map Prod.fst)) (accepted r.key journal) kept r.key c.store store'
        passed := by
  have own := h.belongs r.limiter
  have before : ∀ e ∈ accepted r.key journal, e.1 ≤ r.now := by
    intro e member
    obtain ⟨q, found, rfl⟩ := exists_of_mem_accepted member
    exact latest q found
  have graced : 0 < (c.limiters r.limiter).grace.nanos := by
    rw [own.grace]
    exact fleet.graced r.limiter
  have follows := h.follows r.key r.now latest
  rw [← h.length_eq r.limiter r.key] at follows
  obtain ⟨left, lifetime, serves⟩ := h.exists_serves served
  obtain ⟨store', passed, kept, answers, leaves⟩ :=
    follows.allow α serves graced h.available before (h.draw_eq r ▸ fresh)
  refine ⟨store', passed, left, kept, ?_, ?_, leaves⟩
  · rw [Cluster.step, answers]
    rfl
  · rw [← own.window_eq r.key]
    exact serves.reaches

/-- What a request leaves behind keeps a cluster coordinated. -/
theorem after (h : Coordinated fleet c journal)
    (latest : ∀ q ∈ journal.map Prod.fst, q.now ≤ r.now) {left : Instant}
    (reaches : r.now.shift? (-window.nanos) = some left) {kept : List (Instant × Nat)}
    {store' : Store} {passed : Bool}
    (leaves : (c.limiters r.limiter).Leaves ((c.limiters r.limiter).keyed.state r.key) r.options
      r.now left (drawn fleet (journal.map Prod.fst)) (accepted r.key journal) kept r.key c.store
      store' passed) :
    Coordinated fleet (c.after r store') (journal ++ [(r, .ok passed)]) := by
  have own := h.belongs r.limiter
  have requests : (journal ++ [(r, Except.ok passed)]).map Prod.fst =
      journal.map Prod.fst ++ [r] := by
    rw [List.map_append, List.map_singleton]
  -- The name that was drawn is now among the used ones.
  have grown := h.draw_eq r ▸ insert_draw_subset fleet (journal.map Prod.fst) r
  constructor
  case available => exact leaves.available
  case belongs =>
    intro i
    rw [requests, times_append_singleton]
    change fleet.Belongs i _ (Function.update c.limiters r.limiter _ i)
    -- Only the limiter of the request has changed.
    by_cases mine : r.limiter = i
    · subst mine
      rw [if_pos rfl, Function.update_self]
      exact own.afterRequest r.key r.now
    · rw [if_neg mine, List.append_nil, Function.update_of_ne (Ne.symm mine)]
      exact h.belongs i
  case follows =>
    intro key later reached
    rw [requests] at reached ⊢
    have upTo := reached r (by simp)
    rw [accepted_append_singleton]
    -- The store keeps following under the key of the request and under the others.
    by_cases mine : r.key = key
    · subst mine
      rw [if_pos rfl, ← h.length_eq r.limiter r.key]
      exact (leaves.follows_own upTo).mono grown
    · rw [if_neg mine, List.append_nil]
      exact (leaves.follows_other mine (h.follows key r.now latest) upTo).mono grown
  case spaced =>
    intro key
    rw [accepted_append_singleton]
    by_cases mine : r.key = key
    · subst mine
      rw [if_pos rfl]
      cases passed with
      | false =>
        rw [if_neg Bool.false_ne_true, List.append_nil]
        exact h.spaced r.key
      | true =>
        -- The request has found room, and its window in nanoseconds holds no more.
        have room := leaves.unitsWithin_lt
        rw [own.limit_eq, Instant.eq_of_shift? reaches] at room
        exact .snoc r.options.weight (h.spaced r.key) leaves.before room
    · rw [if_neg mine, List.append_nil]
      exact h.spaced key
  case answered =>
    intro entry member
    rcases List.mem_append.1 member with old | new
    · exact h.answered entry old
    · rw [List.mem_singleton.1 new]
      exact ⟨passed, rfl⟩

/-- **A request keeps a cluster coordinated.** -/
theorem step (α : Type) [Arithmetic α] (h : Coordinated fleet c journal)
    (served : r.Served window)
    (ordered : ((journal.map Prod.fst ++ [r]).map Request.now).Pairwise (· ≤ ·))
    (paced : (times r.limiter (journal.map Prod.fst ++ [r])).count r.now.micros ≤ 2 ^ 64) :
    ∃ c' passed, Cluster.step α c r = .ok (c', .ok passed) ∧
      Coordinated fleet c' (journal ++ [(r, .ok passed)]) := by
  have latest : ∀ q ∈ journal.map Prod.fst, q.now ≤ r.now := by
    intro q member
    rw [List.map_append, List.pairwise_append] at ordered
    exact ordered.2.2 q.now (List.mem_map_of_mem member) r.now (by simp)
  obtain ⟨store', passed, left, kept, stepped, reaches, leaves⟩ :=
    h.exists_leaves α served latest (draw_notMem_drawn fleet ordered paced)
  exact ⟨c.after r store', passed, stepped, h.after latest reaches leaves⟩

end Coordinated

/-- Every sequence of requests is served, and leaves the cluster coordinated. -/
theorem exists_coordinated (α : Type) [Arithmetic α] (fleet : Fleet ι limit window)
    {requests : List (Request ι)} (ordered : (requests.map Request.now).Pairwise (· ≤ ·))
    (served : ∀ r ∈ requests, r.Served window)
    (paced : ∀ i micros, (times i requests).count micros ≤ 2 ^ 64) :
    ∃ last journal, run α (ofFleet fleet) requests = .ok (last, journal) ∧
      journal.map Prod.fst = requests ∧ Coordinated fleet last journal := by
  induction requests using List.reverseRecOn with
  | nil => exact ⟨ofFleet fleet, [], rfl, rfl, coordinated_ofFleet fleet⟩
  | append_singleton requests r ih =>
    -- What is asked of all requests holds of those before the last one.
    have orderedBefore : (requests.map Request.now).Pairwise (· ≤ ·) :=
      ordered.sublist ((List.sublist_append_left requests [r]).map _)
    have pacedBefore : ∀ i micros, (times i requests).count micros ≤ 2 ^ 64 := by
      intro i micros
      refine Nat.le_trans (List.Sublist.count_le micros ?_) (paced i micros)
      rw [times_append_singleton]
      exact List.sublist_append_left ..
    obtain ⟨c, journal, ran, rfl, coordinated⟩ := ih orderedBefore
      (fun q member => served q (List.mem_append_left _ member)) pacedBefore
    obtain ⟨c', passed, stepped, next⟩ :=
      coordinated.step α (served r (by simp)) ordered (paced r.limiter r.now.micros)
    refine ⟨c', journal ++ [(r, .ok passed)], ?_, by simp, next⟩
    rw [run_append_singleton, ran]
    change (Cluster.step α c r).map _ = _
    rw [stepped]
    rfl

/-- **The limit is one of all limiters together.** Limiters of one limit and one window, with
different origins and a grace, share a store and a clock that does not go back. Whatever the order
of their requests, all of them are answered. A closed window of time, to the nanosecond, holds at
most the limit, less one, and the units of one request, of those that were accepted for a key; it
holds at most as many requests as the limit if all of them have one unit. No limiter comes round to
a number within a microsecond, which would take `2 ^ 64` requests. -/
theorem unitsWithin_accepted_le (α : Type) [Arithmetic α] (fleet : Fleet ι limit window)
    {requests : List (Request ι)} (ordered : (requests.map Request.now).Pairwise (· ≤ ·))
    (served : ∀ r ∈ requests, r.Served window)
    (paced : ∀ i micros, (times i requests).count micros ≤ 2 ^ 64) :
    ∃ last journal, run α (ofFleet fleet) requests = .ok (last, journal) ∧
      journal.map Prod.fst = requests ∧ (∀ entry ∈ journal, ∃ passed, entry.2 = .ok passed) ∧
      ∀ (key : String) (left right : Instant), right.nanos = left.nanos + window.nanos →
        (∀ most, (∀ e ∈ accepted key journal, e.2 ≤ most) →
          SlidingLog.unitsWithin (accepted key journal) left right ≤ limit - 1 + most) ∧
        ((∀ e ∈ accepted key journal, e.2 = 1) →
          (SlidingLog.within (accepted key journal) left right).length ≤ limit) := by
  obtain ⟨last, journal, ran, all, coordinated⟩ := exists_coordinated α fleet ordered served paced
  refine ⟨last, journal, ran, all, coordinated.answered, fun key left right long => ?_⟩
  have spaced := coordinated.spaced key
  exact ⟨fun most light => spaced.unitsWithin_le light (Int.le_of_eq long),
    fun single => spaced.length_within_le single (Int.le_of_eq long)⟩

/-- Two limiters of two requests in one and a half microseconds. -/
def twins : Fleet Bool 2 ⟨1500⟩ where
  params _ := ⟨2, ⟨1500⟩, none⟩
  origin i := if i then 1 else 0
  timeout _ := none
  grace _ := defaultGrace
  limiters i := ⟨⟨⟨2, ⟨1500⟩, none⟩, rfl, ∅⟩, .ofOrigin (if i then 1 else 0), none, defaultGrace⟩
  created _ := rfl
  limit_eq _ := rfl
  window_eq _ := rfl
  limit_lt := by decide
  origin_injective i j same := by cases i <;> cases j <;> first | rfl | cases same
  graced := by decide
  lasts := by decide

/-- Four requests within a window, to one of two limiters each. -/
def crowd : List (Request Bool) :=
  [⟨⟨1700⟩, true, "k", {}⟩, ⟨⟨2000⟩, false, "k", {}⟩, ⟨⟨2000⟩, true, "k", {}⟩,
    ⟨⟨3200⟩, false, "k", {}⟩]

/-- Two limiters accept two of the four requests at most. -/
theorem length_within_crowd_le :
    ∃ last journal, run Float (ofFleet twins) crowd = .ok (last, journal) ∧
      (SlidingLog.within (accepted "k" journal) ⟨1700⟩ ⟨3200⟩).length ≤ 2 := by
  obtain ⟨last, journal, ran, all, -, windows⟩ := unitsWithin_accepted_le Float twins
    (show (crowd.map Request.now).Pairwise (· ≤ ·) by decide) (by decide)
    (fun i micros => Nat.le_trans List.count_le_length (by cases i <;> decide))
  refine ⟨last, journal, ran, (windows "k" ⟨1700⟩ ⟨3200⟩ rfl).2 fun e member => ?_⟩
  obtain ⟨r, found, rfl⟩ := exists_of_mem_accepted member
  rw [all] at found
  have single : ∀ r ∈ crowd, r.options.weight = 1 := by decide
  exact single r found

end Cluster

end Throttle
