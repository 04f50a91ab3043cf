import Mathlib.Data.List.Forall2
import Mathlib.Data.List.Induction
import Throttle.Arithmetic.Double
import Throttle.Limiter
import Throttle.Proofs.Shared.Tracking

/-!
# The shared sliding log agrees with the local one

A local sliding log records instants in process. A shared one sends text to a store, which has a
member for every unit, scores in microseconds, drops low scores and lets keys expire. On whole
microseconds nothing is rounded, and both give the same answers: after each request, the members
under its key are the units that the local log records.

## Main definitions

* `Limiter.drive`: the outcomes of calls to a limiter with a store in memory
* `Limiter.Comparable`: the calls that both logs take alike
* `SlidingLog.Fits`: a request does not take a log beyond its range
* `Limiter.Agrees`: what holds of a local and a shared log after the same calls

## Main results

* `SlidingLog.allow_trailing`: what a trailing request does to a local log
* `Limiter.Agrees.after`, `Limiter.Agrees.afterSetLimit`: what a call leaves behind agrees
* `Limiter.Agrees.allow`, `Limiter.Agrees.setLimit`: a call keeps the logs in agreement
* `Limiter.drive_slidingLog_agrees`: the logs agree in every run
-/

namespace Throttle

/-! ## Trailing requests of the local log -/

namespace SlidingLog

/-- A request that finds room does not take the recorded units to `2 ^ 63`. -/
def Fits (l : SlidingLog) (now : Instant) (o : AllowOptions) : Prop :=
  ∀ left, now.shift? (-l.length) = some left →
    (l.forget left).size < l.limit → ((l.forget left).record now o.weight).size < 2 ^ 63

/-- A request fits if its weight and the limit do. -/
theorem fits_of_le {l : SlidingLog} {now : Instant} {o : AllowOptions}
    (h : l.limit + o.weight ≤ 2 ^ 63) : l.Fits now o := by
  intro left _ room
  rw [size, record, units_append, units_singleton]
  rw [size] at room
  omega

/-- The log after a request of `n` units that passed or not. -/
def after (l : SlidingLog) (left now : Instant) (n : Nat) (passed : Bool) : SlidingLog :=
  { l with accepted := since left l.accepted ++ if passed then [(now, n)] else [] }

/-- What a trailing request does that is not older than the records. -/
theorem allow_trailing {l : SlidingLog} {now left : Instant} {o : AllowOptions}
    (trailing : o.fixedWindow = false) (reaches : now.shift? (-l.length) = some left)
    (nonneg : 0 ≤ l.length) (ordered : ∀ e ∈ l.accepted, e.1 ≤ now) (small : l.size < 2 ^ 63)
    (fits : l.Fits now o) :
    let passed := Decidable.decide (units (since left l.accepted) < l.limit)
    l.allow now o.weight o = .ok (l.after left now o.weight passed, .ok passed) ∧
      (l.after left now o.weight passed).size < 2 ^ 63 := by
  intro passed
  have bounds : l.bounds now o = .ok (.ok (left, now)) :=
    (AllowOptions.windowBounds_trailing trailing).2 ⟨reaches, rfl⟩
  -- The left boundary is not later than the request, and the sums stay small: there is no fault.
  have forward : ¬now < left := by
    have boundary := (Instant.shift?_eq_some_iff.1 reaches).1
    rw [Instant.lt_def]
    omega
  -- All that is left lies in the window.
  have seen : (l.forget left).count left now = units (since left l.accepted) := by
    rw [count_forget l (Int.le_refl _), count_eq_unitsWithin, unitsWithin, within_of_le ordered]
  have kept : units (since left l.accepted) ≤ l.size := units_le_of_sublist List.filter_sublist
  have atNow : (l.forget left).count now now ≤ units (since left l.accepted) :=
    unitsWithin_le_units ..
  simp only [SlidingLog.allow, bounds, forward, false_and, if_false, seen]
  rw [if_neg (by omega)]
  by_cases room : units (since left l.accepted) < l.limit
  · have passes : passed = true := decide_eq_true room
    have total := fits left reaches room
    rw [size, record, accepted_forget, units_append, units_singleton] at total
    rw [if_neg (by omega), if_neg (by omega), passes]
    refine ⟨rfl, ?_⟩
    rwa [size, after, if_pos rfl, units_append, units_singleton]
  · have fails : passed = false := decide_eq_false room
    have unchanged : l.after left now o.weight false = l.forget left := by
      rw [after, if_neg Bool.false_ne_true, List.append_nil]
      rfl
    rw [if_pos (by omega), fails, unchanged]
    exact ⟨rfl, Nat.lt_of_le_of_lt kept small⟩

/-- What is recorded was recorded before, or it is the request. -/
theorem mem_accepted_after {l : SlidingLog} {left now : Instant} {n : Nat} {passed : Bool}
    {e : Instant × Nat} (h : e ∈ (l.after left now n passed).accepted) :
    e ∈ l.accepted ∨ e.1 = now := by
  rcases List.mem_append.1 h with old | new
  · exact .inl (List.mem_filter.1 old).1
  · split at new
    · exact .inr (by rw [List.mem_singleton.1 new])
    · cases new

end SlidingLog

/-! ## Trailing requests of the shared log -/

namespace SharedSlidingLog

open SlidingLog

/-- On whole microseconds nothing is rounded: a request passes if the accepted requests in its
window leave room, and these are the ones that stay. -/
theorem Leaves.exact {l : SharedSlidingLog} {params : SlidingLog.Config}
    {o : AllowOptions} {now left : Instant} {drawn : Set (Int × UInt64 × UInt64)}
    {accepted kept : List (Instant × Nat)} {key : String} {store store' : Store} {passed : Bool}
    (leaves : Leaves l params o now left drawn accepted kept key store store' passed)
    (whole : 1000 ∣ left.nanos) (ordered : ∀ e ∈ accepted, e.1 ≤ now) :
    passed = Decidable.decide (units (since left accepted) < params.limit) ∧
      store'.zcard now key = units (since left accepted ++
        if passed then [(now, o.weight)] else []) := by
  have kept_eq : scoringFrom left.micros kept = since left accepted := by
    rw [scoringFrom_of_dvd whole, leaves.same]
  -- No record is newer than the request, so that the right boundary excludes none.
  have counted : (unitsScoring kept fun score =>
      Decidable.decide (left.micros ≤ score) && Decidable.decide (score ≤ now.micros)) =
        units (since left accepted) := by
    rw [← unitsScoring_scoringFrom, kept_eq, unitsScoring]
    congr 1
    refine List.filter_eq_self.2 fun e member => ?_
    exact decide_eq_true (Instant.micros_le_micros (ordered e (List.mem_filter.1 member).1))
  refine ⟨by rw [leaves.decided, counted], ?_⟩
  have holds := leaves.holds
  rw [kept_eq, ← leaves.live] at holds
  exact holds.zcard_eq

/-- An answer to a request by key is the outcome of the call. -/
theorem step_allow {α : Type} [Arithmetic α] {l l' : SharedSlidingLog} {now : Instant}
    {store store' : Store} {key : String} {o : AllowOptions} {passed : Bool}
    (answered : l.allow (Store.context α now) store key o = .ok ((l', store'), .ok passed)) :
    Limiter.step (Store.context α now) ((.sharedSlidingLog l : Limiter α), store) (.allow key o) =
      .ok ((.sharedSlidingLog l', store'), .ok (some passed)) := by
  simp only [Limiter.step, Limiter.allow, answered]
  rfl

/-- A positive limit takes the place of the key's limit. -/
theorem step_setLimit {α : Type} [Arithmetic α] (l : SharedSlidingLog) {limit : Nat}
    (positive : 0 < limit) (key : String) (now : Instant) (store : Store) :
    Limiter.step (Store.context α now) ((.sharedSlidingLog l : Limiter α), store)
      (.setLimit key limit) =
      .ok ((.sharedSlidingLog { l with
        keyed := l.keyed.put key { l.keyed.state key with limit := limit } }, store),
        .ok none) := by
  have sets : SlidingLog.sharedScheme.setLimit limit now =
      .when (checkPositive .limit limit) fun p => { p with limit := limit } := rfl
  exact Limiter.changed_setLimit_of_when sets (checkPositive_eq_ok_iff.2 positive)
    (fun keyed => .sharedSlidingLog { l with keyed := keyed }) l.keyed key (.sharedSlidingLog l)
    store

/-- A log that forgets what a request does not reach is followed like one that does not. -/
theorem Follows.after {slot : Option Slot} {drawn : Set (Int × UInt64 × UInt64)}
    {l : SlidingLog} {now left : Instant} {n : Nat} {passed : Bool} (length : 0 ≤ l.length)
    (reaches : left.nanos = now.nanos - l.length)
    (f : Follows slot drawn l.length now
      (l.accepted ++ if passed then [(now, n)] else [])) :
    Follows slot drawn l.length now (l.after left now n passed).accepted := by
  -- The request itself is not dropped.
  have newest : since left (if passed then [(now, n)] else []) =
      if passed then [(now, n)] else [] := by
    have inside : left ≤ now := Instant.le_def.2 (by omega)
    cases passed <;> simp [since, inside]
  have reachable := f.forget (Int.le_of_eq reaches)
  rwa [since_append, newest] at reachable

end SharedSlidingLog

namespace Limiter

section Requests

variable {α : Type}

/-- Whether a call is a request by key. -/
def isRequest : Call α → Bool
  | .allow _ _ => true
  | _ => false

/-- The times in microseconds of the requests among some calls. -/
def requestTimes (calls : List (Instant × Call α)) : List Int :=
  (calls.filter fun c => isRequest c.2).map fun c => c.1.micros

/-- The names that a limiter has drawn for the requests among some calls. -/
def drawn (origin : UInt64) (calls : List (Instant × Call α)) : Set (Int × UInt64 × UInt64) :=
  {d | d ∈ MemberNames.drawn origin (requestTimes calls)}

theorem requestTimes_append_singleton (calls : List (Instant × Call α)) (c : Instant × Call α) :
    requestTimes (calls ++ [c]) =
      requestTimes calls ++ if isRequest c.2 then [c.1.micros] else [] := by
  by_cases request : isRequest c.2 <;> simp [requestTimes, request]

theorem ordered_requestTimes {calls : List (Instant × Call α)}
    (ordered : (calls.map Prod.fst).Pairwise (· ≤ ·)) :
    (requestTimes calls).Pairwise (· ≤ ·) := by
  rw [List.pairwise_map] at ordered
  exact (ordered.filter _).map _ fun _ _ before => Instant.micros_le_micros before

/-- No call of an ordered sequence is later than its last one. -/
theorem le_last_of_ordered {calls : List (Instant × Call α)} {now : Instant} {call : Call α}
    (ordered : ((calls ++ [(now, call)]).map Prod.fst).Pairwise (· ≤ ·)) :
    ∀ c ∈ calls, c.1 ≤ now := by
  rw [List.map_append, List.pairwise_append] at ordered
  exact fun c member => ordered.2.2 c.1 (List.mem_map_of_mem member) now (by simp)

/-- The first ones of some calls make no more requests at any time. -/
theorem count_requestTimes_le {calls calls' : List (Instant × Call α)} (first : calls' <+: calls)
    (micros : Int) : (requestTimes calls').count micros ≤ (requestTimes calls).count micros :=
  List.Sublist.count_le micros ((first.sublist.filter _).map _)

/-- A request draws the next name. -/
theorem drawn_append_request (origin : UInt64) (calls : List (Instant × Call α)) (now : Instant)
    (key : String) (o : AllowOptions) :
    drawn origin (calls ++ [(now, .allow key o)]) =
      insert (now.micros, origin, UInt64.ofNat (requestTimes calls).length)
        (drawn origin calls) := by
  ext d
  rw [drawn, requestTimes_append_singleton]
  simp [isRequest, MemberNames.drawn_append_singleton, drawn, or_comm]

/-- A limiter has not drawn the name of a new request, unless it came round to its number. -/
theorem notMem_drawn (origin : UInt64) {calls : List (Instant × Call α)} {now : Instant}
    {key : String} {o : AllowOptions}
    (ordered : ((calls ++ [(now, Call.allow key o)]).map Prod.fst).Pairwise (· ≤ ·))
    (paced : (requestTimes (calls ++ [(now, Call.allow key o)])).count now.micros ≤ 2 ^ 64) :
    (now.micros, origin, UInt64.ofNat (requestTimes calls).length) ∉ drawn origin calls := by
  have inOrder := ordered_requestTimes ordered
  rw [requestTimes_append_singleton] at inOrder paced
  exact MemberNames.notMem_drawn origin inOrder paced

end Requests

/-! ## Agreement -/

/-- A local log and the parameters of a shared one that decide alike, with values below
`2 ^ 63`. -/
structure Alike (window : Span) (l : SlidingLog) (params : SlidingLog.Config) : Prop where
  limit_eq : params.limit = l.limit
  limit_pos : 0 < l.limit
  limit_lt : l.limit < 2 ^ 63
  length_eq : l.length = window.nanos
  window_eq : params.window = window

/-- What holds of a local and a shared log after the same calls: their parameters are alike, and the
store follows what the local log records. -/
structure Agrees {α : Type} (origin : UInt64) (window : Span) (calls : List (Instant × Call α))
    (k : Keyed SlidingLog.scheme) (s : SharedSlidingLog) (store : Store) : Prop where
  alike : ∀ key, Alike window (k.state key) (s.keyed.state key)
  members : s.members = ⟨origin, UInt64.ofNat (requestTimes calls).length⟩
  graced : 0 < s.grace.nanos
  lasts : (window.plus? s.grace).isSome
  available : store.available = true
  follows : ∀ key now, (∀ c ∈ calls, c.1 ≤ now) →
    SharedSlidingLog.Follows ((store.live now).get? key) (drawn origin calls) window.nanos now
      (k.state key).accepted
  recorded : ∀ key, ∀ e ∈ (k.state key).accepted, ∃ c ∈ calls, e.1 = c.1
  small : ∀ key, (k.state key).size < 2 ^ 63

namespace Agrees

section Start

variable {α : Type} {origin : UInt64} {k : Keyed SlidingLog.scheme} {s : SharedSlidingLog}

/-- New limiters agree over a store without keys. -/
theorem start {c c' : SlidingLog.Config} {timeout : Option Span} {grace : Span}
    (made : Keyed.create? SlidingLog.scheme c = .ok k)
    (madeShared : SharedSlidingLog.create? c' origin timeout grace = .ok s)
    (limits : c'.limit = c.limit) (windows : c'.window = c.window) (small : c.limit < 2 ^ 63)
    (graced : 0 < grace.nanos) (lasts : (c.window.plus? grace).isSome) :
    Agrees origin c.window ([] : List (Instant × Call α)) k s ∅ := by
  have state : ∀ key, k.state key = SlidingLog.start c := Keyed.state_of_create? made
  obtain ⟨valid, state', members, grace_eq⟩ := SharedSlidingLog.create?_eq_ok madeShared
  have positive := (SlidingLog.Config.validate_eq_ok_iff.1 valid).1
  constructor
  case alike =>
    intro key
    rw [state, state']
    exact ⟨limits, Nat.lt_of_lt_of_eq positive limits, small, rfl, windows⟩
  case members => exact members
  case graced => rw [grace_eq]; exact graced
  case lasts => rw [grace_eq]; exact lasts
  case available => rfl
  case follows =>
    intro key now _
    rw [state]
    exact .empty _ _ now
  case recorded =>
    intro key e member
    rw [state] at member
    cases member
  case small =>
    intro key
    rw [state]
    exact Nat.two_pow_pos 63

end Start

variable {α : Type} {origin : UInt64} {window : Span} {calls : List (Instant × Call α)}
  {k : Keyed SlidingLog.scheme} {s : SharedSlidingLog} {store : Store} {now : Instant}

/-- A record is not older than the calls. -/
theorem before (h : Agrees origin window calls k s store) (latest : ∀ c ∈ calls, c.1 ≤ now)
    (key : String) : ∀ e ∈ (k.state key).accepted, e.1 ≤ now := by
  intro e member
  obtain ⟨c, found, same⟩ := h.recorded key e member
  rw [same]
  exact latest c found

/-- The shared log can serve the requests that both logs take alike. -/
theorem exists_serves (h : Agrees origin window calls k s store) {key : String} {o : AllowOptions}
    (readable : now.Representable) (trailing : o.fixedWindow = false)
    (weight_lt : o.weight < 2 ^ 63) (reaches : (now.shift? (-window.nanos)).isSome) :
    ∃ left lifetime, s.Serves (s.keyed.state key) o now left lifetime := by
  obtain ⟨left, reaches⟩ := Option.isSome_iff_exists.1 reaches
  obtain ⟨lifetime, lasts⟩ := Option.isSome_iff_exists.1 h.lasts
  have alike := h.alike key
  refine ⟨left, lifetime, trailing, readable, ?_, ?_, ?_, weight_lt, ?_⟩
  · rw [alike.window_eq]
    exact reaches
  · rw [alike.limit_eq]
    exact alike.limit_pos
  · rw [alike.limit_eq]
    exact alike.limit_lt
  · rw [alike.window_eq]
    exact lasts

/-- The next name is that of the limiter. -/
theorem draw_eq (h : Agrees origin window calls k s store) (now : Instant) :
    (now.micros, s.members.origin, s.members.sequence) =
      (now.micros, origin, UInt64.ofNat (requestTimes calls).length) := by
  rw [h.members]

/-- The shared log answers a request, and what it leaves behind follows what the local log
records. -/
theorem exists_leaves (α : Type) [Arithmetic α] {calls : List (Instant × Call α)}
    (h : Agrees origin window calls k s store) {key : String} {o : AllowOptions}
    (latest : ∀ c ∈ calls, c.1 ≤ now) (readable : now.Representable)
    (trailing : o.fixedWindow = false) (weight_lt : o.weight < 2 ^ 63)
    (reaches : (now.shift? (-window.nanos)).isSome)
    (fresh : (now.micros, origin, UInt64.ofNat (requestTimes calls).length) ∉ drawn origin calls) :
    ∃ store' passed left kept,
      s.allow (Store.context α now) store key o =
        .ok ((s.afterRequest key now, store'), .ok passed) ∧
      now.shift? (-(k.state key).length) = some left ∧
      s.Leaves (s.keyed.state key) o now left (drawn origin calls) (k.state key).accepted kept key
        store store' passed := by
  have alike := h.alike key
  have follows := h.follows key now latest
  rw [← alike.window_eq] at follows
  obtain ⟨left, lifetime, serves⟩ := h.exists_serves readable trailing weight_lt reaches
  obtain ⟨store', passed, kept, answers, leaves⟩ :=
    follows.allow α serves h.graced h.available (h.before latest key) (h.draw_eq now ▸ fresh)
  refine ⟨store', passed, left, kept, answers, ?_, leaves⟩
  rw [alike.length_eq, ← alike.window_eq]
  exact serves.reaches

/-- What a request leaves behind keeps the logs in agreement. -/
theorem after (h : Agrees origin window calls k s store) (latest : ∀ c ∈ calls, c.1 ≤ now)
    {key : String} {o : AllowOptions} {left : Instant}
    (reaches : now.shift? (-(k.state key).length) = some left) {kept : List (Instant × Nat)}
    {store' : Store} {passed : Bool}
    (leaves : s.Leaves (s.keyed.state key) o now left (drawn origin calls) (k.state key).accepted
      kept key store store' passed)
    (small : ((k.state key).after left now o.weight passed).size < 2 ^ 63) :
    Agrees origin window (calls ++ [(now, .allow key o)])
      (k.put key ((k.state key).after left now o.weight passed)) (s.afterRequest key now)
      store' := by
  have alike := h.alike key
  constructor
  case alike =>
    intro key'
    rw [Keyed.state_put, SharedSlidingLog.state_afterRequest]
    split
    · rename_i mine
      subst mine
      exact ⟨alike.limit_eq, alike.limit_pos, alike.limit_lt, alike.length_eq, alike.window_eq⟩
    · exact h.alike key'
  case members =>
    rw [SharedSlidingLog.members_afterRequest, h.members, MemberNames.next_ofNat,
      requestTimes_append_singleton, isRequest, if_pos rfl, List.length_append,
      List.length_singleton]
  case graced => exact h.graced
  case lasts => exact h.lasts
  case available => exact leaves.available
  case follows =>
    intro key' later reached
    have upTo := reached (now, .allow key o) (by simp)
    rw [Keyed.state_put, drawn_append_request, ← h.draw_eq now]
    by_cases mine : key = key'
    · subst mine
      -- The local log has forgotten what the request does not reach, and no later one does.
      have nonneg : 0 ≤ (k.state key).length := by rw [alike.length_eq]; omega
      have boundary := (Instant.shift?_eq_some_iff.1 reaches).1
      have followed := leaves.follows
      rw [alike.window_eq, ← alike.length_eq] at followed
      rw [if_pos rfl, ← alike.length_eq, Store.get?_live]
      exact (SharedSlidingLog.Follows.after nonneg boundary followed).live upTo
    · rw [if_neg mine]
      exact leaves.follows_other mine (h.follows key' now latest) upTo
  case recorded =>
    intro key' e member
    -- A record of before comes from an earlier call.
    have old {key'' : String} (member : e ∈ (k.state key'').accepted) :
        ∃ c ∈ calls ++ [(now, .allow key o)], e.1 = c.1 := by
      obtain ⟨c, found, same⟩ := h.recorded key'' e member
      exact ⟨c, List.mem_append_left _ found, same⟩
    rw [Keyed.state_put] at member
    split at member
    · rcases SlidingLog.mem_accepted_after member with kept | same
      · exact old kept
      · exact ⟨(now, .allow key o), by simp, same⟩
    · exact old member
  case small =>
    intro key'
    rw [Keyed.state_put]
    split
    · exact small
    · exact h.small key'

variable [Arithmetic α]

/-- **A request keeps the logs in agreement.** Both give the same answer, and have the same units
afterwards. -/
theorem allow (h : Agrees origin window calls k s store) {key : String} {o : AllowOptions}
    (latest : ∀ c ∈ calls, c.1 ≤ now) (readable : now.Representable) (whole : 1000 ∣ now.nanos)
    (wholeWindow : 1000 ∣ window.nanos) (trailing : o.fixedWindow = false)
    (weight_lt : o.weight < 2 ^ 63) (reaches : (now.shift? (-window.nanos)).isSome)
    (fits : (k.state key).Fits now o)
    (fresh : (now.micros, origin, UInt64.ofNat (requestTimes calls).length) ∉ drawn origin calls)
    (other : Store) :
    ∃ k' s' store' passed,
      step (Store.context α now) ((.slidingLog k : Limiter α), other) (.allow key o) =
        .ok ((.slidingLog k', other), .ok (some passed)) ∧
      step (Store.context α now) ((.sharedSlidingLog s : Limiter α), store) (.allow key o) =
        .ok ((.sharedSlidingLog s', store'), .ok (some passed)) ∧
      Agrees origin window (calls ++ [(now, .allow key o)]) k' s' store' ∧
      (k'.get? key).map SlidingLog.size = some (store'.zcard now key) := by
  obtain ⟨store', passed, left, kept, answers, reaches, leaves⟩ :=
    h.exists_leaves α latest readable trailing weight_lt reaches fresh
  have alike := h.alike key
  have nonneg : 0 ≤ (k.state key).length := by rw [alike.length_eq]; omega
  have wholeLeft : 1000 ∣ left.nanos := by
    have boundary := (Instant.shift?_eq_some_iff.1 reaches).1
    rw [alike.length_eq] at boundary
    omega
  -- Both decide by the accepted requests from the left boundary on.
  obtain ⟨decided, counted⟩ := leaves.exact wholeLeft leaves.before
  rw [alike.limit_eq] at decided
  obtain ⟨allowed, small⟩ :=
    SlidingLog.allow_trailing trailing reaches nonneg leaves.before (h.small key) fits
  rw [← decided] at allowed small
  have decides : SlidingLog.decide now o (k.state key) =
      .ok ((k.state key).after left now o.weight passed, .ok passed) := allowed
  refine ⟨k.put key ((k.state key).after left now o.weight passed), s.afterRequest key now, store',
    passed, ?_, SharedSlidingLog.step_allow answers, h.after latest reaches leaves small, ?_⟩
  · simp only [step, Limiter.allow, Keyed.allow_eq, Store.now_context, decides]
    rfl
  · rw [Keyed.get?_put, if_pos rfl, Option.map_some, counted]
    rfl

omit [Arithmetic α] in
/-- New limits of a key keep the logs in agreement: what they record is what they recorded. -/
theorem afterSetLimit (h : Agrees origin window calls k s store) (key : String) {limit : Nat}
    (now : Instant) (limit_pos : 0 < limit) (limit_lt : limit < 2 ^ 63) :
    Agrees origin window (calls ++ [(now, .setLimit key limit)])
      (k.put key ((k.state key).setLimit limit))
      { s with keyed := s.keyed.put key { s.keyed.state key with limit := limit } } store := by
  have accepted : ∀ key', ((k.put key ((k.state key).setLimit limit)).state key').accepted =
      (k.state key').accepted := by
    intro key'
    rw [Keyed.state_put]
    split
    · rename_i mine
      subst mine
      rfl
    · rfl
  have times : requestTimes (calls ++ [(now, .setLimit key limit)]) = requestTimes calls := by
    simp [requestTimes_append_singleton, isRequest]
  constructor
  case alike =>
    intro key'
    rw [Keyed.state_put, Keyed.state_put]
    split
    · rename_i mine
      subst mine
      have alike := h.alike key
      exact ⟨rfl, limit_pos, limit_lt, alike.length_eq, alike.window_eq⟩
    · exact h.alike key'
  case members => rw [times]; exact h.members
  case graced => exact h.graced
  case lasts => exact h.lasts
  case available => exact h.available
  case follows =>
    intro key' later reached
    rw [accepted, drawn, times]
    exact h.follows key' later fun c member => reached c (List.mem_append_left _ member)
  case recorded =>
    intro key' e member
    rw [accepted] at member
    obtain ⟨c, found, same⟩ := h.recorded key' e member
    exact ⟨c, List.mem_append_left _ found, same⟩
  case small =>
    intro key'
    rw [SlidingLog.size, accepted]
    exact h.small key'

/-- **A new limit keeps the logs in agreement.** -/
theorem setLimit (h : Agrees origin window calls k s store) {key : String} {limit : Nat}
    (now : Instant) (limit_pos : 0 < limit) (limit_lt : limit < 2 ^ 63) (other : Store) :
    ∃ k' s',
      step (Store.context α now) ((.slidingLog k : Limiter α), other) (.setLimit key limit) =
        .ok ((.slidingLog k', other), .ok none) ∧
      step (Store.context α now) ((.sharedSlidingLog s : Limiter α), store) (.setLimit key limit) =
        .ok ((.sharedSlidingLog s', store), .ok none) ∧
      Agrees origin window (calls ++ [(now, .setLimit key limit)]) k' s' store := by
  have sets : SlidingLog.scheme.setLimit limit now =
      .when (checkPositive .limit limit) fun l => l.setLimit limit := rfl
  have changes := changed_setLimit_of_when sets (checkPositive_eq_ok_iff.2 limit_pos)
    (slidingLog (α := α)) k key (slidingLog k) other
  exact ⟨_, _, changes, s.step_setLimit limit_pos key now store,
    h.afterSetLimit key now limit_pos limit_lt⟩

end Agrees

/-! ## Runs -/

section Runs

variable {α : Type} [Arithmetic α]

/-- The outcomes of calls at the given times, made to a limiter with a store in memory, and the
states after them. -/
def drive (start : Limiter α × Store) (calls : List (Instant × Call α)) :
    Except Fault ((Limiter α × Store) × List Outcome) :=
  run start (calls.map fun c => (Store.context α c.1, c.2))

theorem drive_append_singleton {start last next : Limiter α × Store}
    {calls : List (Instant × Call α)} {now : Instant} {call : Call α} {outcomes : List Outcome}
    {outcome : Outcome} (ran : drive start calls = .ok (last, outcomes))
    (stepped : step (Store.context α now) last call = .ok (next, outcome)) :
    drive start (calls ++ [(now, call)]) = .ok (next, outcomes ++ [outcome]) := by
  rw [drive] at ran ⊢
  rw [List.map_append, List.map_singleton, run_append_singleton, ran]
  change (step (Store.context α now) last call).map _ = _
  rw [stepped]
  rfl

/-- The first call of a sequence is made before the others. -/
theorem drive_cons {start next last : Limiter α × Store} {now : Instant} {call : Call α}
    {outcome : Outcome} {rest : List (Instant × Call α)} {outcomes : List Outcome}
    (stepped : step (Store.context α now) start call = .ok (next, outcome))
    (ran : drive next rest = .ok (last, outcomes)) :
    drive start ((now, call) :: rest) = .ok (last, outcome :: outcomes) := by
  rw [drive] at ran ⊢
  rw [List.map_cons, run, stepped]
  dsimp only
  rw [ran]
  rfl

/-- The calls that both logs take alike: trailing requests whose window can be represented, and
positive limits. All values are below `2 ^ 63`. -/
inductive Comparable (window : Span) (now : Instant) : Call α → Prop where
  | allow {key : String} {o : AllowOptions} (trailing : o.fixedWindow = false)
      (weight_lt : o.weight < 2 ^ 63) (reaches : (now.shift? (-window.nanos)).isSome) :
      Comparable window now (.allow key o)
  | setLimit {key : String} {limit : Nat} (limit_pos : 0 < limit) (limit_lt : limit < 2 ^ 63) :
      Comparable window now (.setLimit key limit)

/-- An outcome without an error: an answer to a request, and none to a setter. -/
inductive Answers : Instant × Call α → Outcome → Prop where
  | allow {now : Instant} {key : String} {o : AllowOptions} (passed : Bool) :
      Answers (now, .allow key o) (.ok (some passed))
  | setLimit {now : Instant} {key : String} {limit : Nat} :
      Answers (now, .setLimit key limit) (.ok none)

/-- Calls by a clock that does not go back and reads whole microseconds, none of which leaves the
ranges of what the logs compute with. The limiter does not come round to a number within a
microsecond, which would take `2 ^ 64` requests. -/
structure InRange (window : Span) (k : Keyed SlidingLog.scheme) (calls : List (Instant × Call α)) :
    Prop where
  ordered : (calls.map Prod.fst).Pairwise (· ≤ ·)
  readable : ∀ c ∈ calls, c.1.Representable
  whole : ∀ c ∈ calls, 1000 ∣ c.1.nanos
  comparable : ∀ c ∈ calls, Comparable window c.1 c.2
  paced : ∀ micros, (requestTimes calls).count micros ≤ 2 ^ 64
  fits : ∀ before now key o, before ++ [(now, .allow key o)] <+: calls → ∀ k' outcomes,
    drive (.slidingLog k, ∅) before = .ok ((.slidingLog k', ∅), outcomes) →
      (k'.state key).Fits now o

theorem InRange.of_prefix {window : Span} {k : Keyed SlidingLog.scheme}
    {calls calls' : List (Instant × Call α)} (h : InRange window k calls)
    (first : calls' <+: calls) : InRange window k calls' where
  ordered := h.ordered.sublist (first.sublist.map _)
  readable c member := h.readable c (first.subset member)
  whole c member := h.whole c (first.subset member)
  comparable c member := h.comparable c (first.subset member)
  paced micros := Nat.le_trans (count_requestTimes_le first micros) (h.paced micros)
  fits before now key o shorter := h.fits before now key o (shorter.trans first)

/-- The logs agree after every sequence of calls within their ranges. -/
theorem exists_agrees {c c' : SlidingLog.Config} {origin : UInt64} {timeout : Option Span}
    {grace : Span} {k : Keyed SlidingLog.scheme} {s : SharedSlidingLog}
    (made : Keyed.create? SlidingLog.scheme c = .ok k)
    (madeShared : SharedSlidingLog.create? c' origin timeout grace = .ok s)
    (limits : c'.limit = c.limit) (windows : c'.window = c.window) (small : c.limit < 2 ^ 63)
    (whole : 1000 ∣ c.window.nanos) (graced : 0 < grace.nanos)
    (lasts : (c.window.plus? grace).isSome) {calls : List (Instant × Call α)}
    (inRange : InRange c.window k calls) :
    ∃ k' s' store outcomes,
      drive (.slidingLog k, ∅) calls = .ok ((.slidingLog k', ∅), outcomes) ∧
      drive (.sharedSlidingLog s, ∅) calls = .ok ((.sharedSlidingLog s', store), outcomes) ∧
      List.Forall₂ Answers calls outcomes ∧ Agrees origin c.window calls k' s' store ∧
      ∀ now key o, calls.getLast? = some (now, .allow key o) →
        (k'.get? key).map SlidingLog.size = some (store.zcard now key) := by
  induction calls using List.reverseRecOn with
  | nil =>
    exact ⟨k, s, ∅, [], rfl, rfl, .nil, .start made madeShared limits windows small graced lasts,
      by simp⟩
  | append_singleton calls call ih =>
    obtain ⟨now, call⟩ := call
    have first : calls <+: calls ++ [(now, call)] := List.prefix_append ..
    obtain ⟨k', s', store, outcomes, ran, ranShared, answers, agrees, -⟩ :=
      ih (inRange.of_prefix first)
    have last : (now, call) ∈ calls ++ [(now, call)] := by simp
    have latest := le_last_of_ordered inRange.ordered
    cases inRange.comparable _ last with
    -- A request finds both logs as the calls before have left them.
    | @allow key o trailing weight_lt reaches =>
      obtain ⟨k'', s'', store', passed, stepped, steppedShared, agrees', counted⟩ :=
        agrees.allow latest (inRange.readable _ last) (inRange.whole _ last) whole trailing
          weight_lt reaches (inRange.fits calls now key o (List.prefix_refl _) k' outcomes ran)
          (notMem_drawn origin inRange.ordered (inRange.paced now.micros)) ∅
      refine ⟨k'', s'', store', outcomes ++ [.ok (some passed)],
        drive_append_singleton ran stepped, drive_append_singleton ranShared steppedShared,
        List.rel_append answers (.cons (.allow passed) .nil), agrees', ?_⟩
      intro now' key' o' found
      rw [List.getLast?_concat] at found
      cases found
      exact counted
    | @setLimit key limit limit_pos limit_lt =>
      obtain ⟨k'', s'', stepped, steppedShared, agrees'⟩ :=
        agrees.setLimit now limit_pos limit_lt ∅
      refine ⟨k'', s'', store, outcomes ++ [.ok none],
        drive_append_singleton ran stepped, drive_append_singleton ranShared steppedShared,
        List.rel_append answers (.cons .setLimit .nil), agrees', ?_⟩
      intro now' key' o' found
      rw [List.getLast?_concat] at found
      cases found

/-- **The shared sliding log agrees with the local one.** Both have the same limit and window, in
whole microseconds, and the shared one has a grace. Whatever calls within their ranges they take,
all are answered, and alike; and after every request, the members under its key in the store are
the units that the local log has recorded for it. -/
theorem drive_slidingLog_agrees {c c' : SlidingLog.Config} {origin : UInt64}
    {timeout : Option Span} {grace : Span} {k : Keyed SlidingLog.scheme} {s : SharedSlidingLog}
    (made : Keyed.create? SlidingLog.scheme c = .ok k)
    (madeShared : SharedSlidingLog.create? c' origin timeout grace = .ok s)
    (limits : c'.limit = c.limit) (windows : c'.window = c.window) (small : c.limit < 2 ^ 63)
    (whole : 1000 ∣ c.window.nanos) (graced : 0 < grace.nanos)
    (lasts : (c.window.plus? grace).isSome) {calls : List (Instant × Call α)}
    (inRange : InRange c.window k calls) :
    (∃ k' s' store outcomes,
      drive (.slidingLog k, ∅) calls = .ok ((.slidingLog k', ∅), outcomes) ∧
      drive (.sharedSlidingLog s, ∅) calls = .ok ((.sharedSlidingLog s', store), outcomes) ∧
      List.Forall₂ Answers calls outcomes) ∧
    ∀ before now key o, before ++ [(now, .allow key o)] <+: calls → ∃ k' s' store outcomes,
      drive (.slidingLog k, ∅) (before ++ [(now, .allow key o)]) =
        .ok ((.slidingLog k', ∅), outcomes) ∧
      drive (.sharedSlidingLog s, ∅) (before ++ [(now, .allow key o)]) =
        .ok ((.sharedSlidingLog s', store), outcomes) ∧
      (k'.get? key).map SlidingLog.size = some (store.zcard now key) := by
  have agrees {calls' : List (Instant × Call α)} (first : calls' <+: calls) :=
    exists_agrees made madeShared limits windows small whole graced lasts
      (inRange.of_prefix first)
  refine ⟨?_, fun before now key o first => ?_⟩
  · obtain ⟨k', s', store, outcomes, ran, ranShared, answers, -, -⟩ :=
      agrees (List.prefix_refl calls)
    exact ⟨k', s', store, outcomes, ran, ranShared, answers⟩
  · obtain ⟨k', s', store, outcomes, ran, ranShared, -, -, counted⟩ := agrees first
    exact ⟨k', s', store, outcomes, ran, ranShared,
      counted now key o (by rw [List.getLast?_concat])⟩

/-- Two requests of one key, a microsecond apart. -/
def pair : List (Instant × Call Float) :=
  [(⟨10000⟩, .allow "k" { count := 2 }), (⟨11000⟩, .allow "k" {})]

theorem drive_pair_agrees :
    ∃ k s k' s' store outcomes,
      Keyed.create? SlidingLog.scheme ⟨3, ⟨2000⟩, none⟩ = .ok k ∧
      SharedSlidingLog.create? ⟨3, ⟨2000⟩, none⟩ 7 none defaultGrace = .ok s ∧
      drive (.slidingLog k, ∅) pair = .ok ((.slidingLog k', ∅), outcomes) ∧
      drive (.sharedSlidingLog s, ∅) pair = .ok ((.sharedSlidingLog s', store), outcomes) ∧
      (k'.get? "k").map SlidingLog.size = some (store.zcard ⟨11000⟩ "k") := by
  let k : Keyed SlidingLog.scheme := ⟨⟨3, ⟨2000⟩, none⟩, rfl, ∅⟩
  let s : SharedSlidingLog := ⟨⟨⟨3, ⟨2000⟩, none⟩, rfl, ∅⟩, .ofOrigin 7, none, defaultGrace⟩
  have inRange : InRange ⟨2000⟩ k pair := by
    constructor
    case ordered => decide
    case readable => decide
    case whole => decide
    case comparable =>
      intro c member
      rcases List.mem_pair.1 member with rfl | rfl <;> exact .allow rfl (by decide) (by decide)
    case paced => exact fun micros => Nat.le_trans List.count_le_length (by decide)
    case fits =>
      intro before now key o first k' outcomes ran
      rcases before with _ | ⟨a, _ | ⟨b, rest⟩⟩
      · obtain ⟨rfl, rfl, rfl⟩ : now = ⟨10000⟩ ∧ key = "k" ∧ o = { count := 2 } := by
          simpa [pair] using first
        cases ran
        exact SlidingLog.fits_of_le (by decide)
      · obtain ⟨rfl, rfl, rfl, rfl⟩ : a = (⟨10000⟩, .allow "k" { count := 2 }) ∧
            now = ⟨11000⟩ ∧ key = "k" ∧ o = {} := by
          simpa [pair] using first
        cases ran
        exact SlidingLog.fits_of_le (by decide)
      · simp [pair] at first
  obtain ⟨k', s', store, outcomes, ran, ranShared, counted⟩ :=
    (drive_slidingLog_agrees (c := ⟨3, ⟨2000⟩, none⟩) (s := s) rfl rfl rfl rfl (by decide)
      (by decide) (by decide) (by decide) inRange).2 [(⟨10000⟩, .allow "k" { count := 2 })] ⟨11000⟩
      "k" {} (List.prefix_refl _)
  exact ⟨k, s, k', s', store, outcomes, rfl, rfl, ran, ranShared, counted⟩

end Runs

end Limiter

end Throttle
