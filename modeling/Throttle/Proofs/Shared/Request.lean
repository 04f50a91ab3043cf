import Throttle.Limiter.Shared
import Throttle.Proofs.Store.Names
import Throttle.Proofs.Store.Scores

/-!
# A request of the shared sliding log

A request of the shared sliding log travels as text through a script and comes back as a reply,
and the lifetime of its key is renewed afterwards. Within the ranges of 64-bit integers all of this
amounts to one operation on the sorted set of the key, and it leaves the other keys alone.

## Main definitions

* `SortedSet.tryAdd`: the sorted set after a request, and whether it passed
* `SharedSlidingLog.afterRequest`: the limiter after a request
* `SharedSlidingLog.Serves`: the parameters and the time with which a request can be served

## Main results

* `Store.recordUnits_arguments`: what the script does with the arguments of a request
* `SharedSlidingLog.request_eq_within`, `SharedSlidingLog.request_eq`: what a request does, and what
  a trailing one does
-/

namespace Throttle

/-- The microseconds of an instant that a clock can read fit into 64 bits. -/
theorem Instant.Representable.micros_mem {t : Instant} (h : t.Representable) :
    -(2 ^ 63) ≤ t.micros ∧ t.micros < 2 ^ 63 := by
  obtain ⟨low, high⟩ := h
  rw [Instant.le_def] at low high
  simp only [Instant.earliest, Instant.latest, Instant.ofParts] at low high
  simp only [Instant.micros]
  omega

namespace SortedSet

/-- The sorted set after a request with the given unit names, and whether the request passed. -/
def tryAdd (s : SortedSet) (left right now : Int) (limit : Nat) (names : List String) :
    SortedSet × Bool :=
  let kept := s.removeBelow left
  if limit ≤ kept.count left right then (kept, false) else (kept.addAll now names, true)

/-- A request with a unit and under a limit leaves a member behind: it joins the members that it
finds, unless they are too many. -/
theorem isEmpty_tryAdd {s : SortedSet} (coherent : s.Coherent) {left right now : Int} {limit : Nat}
    {names : List String} (positive : 0 < limit) (named : names ≠ []) :
    (s.tryAdd left right now limit names).1.isEmpty = false := by
  unfold tryAdd
  dsimp only
  split
  · rename_i full
    -- A full set has members, since the limit is positive.
    rw [count_eq_scoring] at full
    exact isEmpty_of_scoring_pos (Nat.lt_of_lt_of_le positive full)
  -- Otherwise the first unit has come in.
  · have kept := coherent.removeBelow left
    obtain ⟨first, member⟩ := List.exists_mem_of_ne_nil names named
    have scored := score?_addAll (s.removeBelow left) now names first
    rw [if_pos member] at scored
    exact (kept.addAll now names).isEmpty_eq_false scored

/-- A request keeps the two indexes in agreement. -/
theorem Coherent.tryAdd {s : SortedSet} (coherent : s.Coherent) (left right now : Int) (limit : Nat)
    (names : List String) : (s.tryAdd left right now limit names).1.Coherent := by
  unfold SortedSet.tryAdd
  dsimp only
  split
  · exact coherent.removeBelow left
  · exact (coherent.removeBelow left).addAll now names

end SortedSet

namespace Store

/-- The script reads no limit and no count of units beyond 63 bits. -/
theorem argument_toString_nat {args : List String} {index n : Nat}
    (found : args[index]? = some (toString n)) :
    argument integer? args index =
      if n < 2 ^ 63 then .ok (n : Int) else .error (.badArgument (index + 1)) := by
  split
  · rename_i small
    exact argument_eq found (integer?_toString_nat small)
  · rename_i large
    rw [argument, found, Option.bind_some, integer?_toString_nat_eq_none (by omega)]

section Arguments

variable {left right now : Instant} (hleft : left.Representable) (hright : right.Representable)
  (hnow : now.Representable)

include hleft hright hnow

/-- The script reads the times of a request as they are. -/
theorem argument_times (limit n : Nat) (member : String) :
    let args := SharedSlidingLog.arguments left right now limit n member
    argument integer? args 0 = .ok left.micros ∧ argument integer? args 1 = .ok right.micros ∧
      argument integer? args 2 = .ok now.micros :=
  ⟨argument_eq rfl (integer?_toString hleft.micros_mem.1 hleft.micros_mem.2),
    argument_eq rfl (integer?_toString hright.micros_mem.1 hright.micros_mem.2),
    argument_eq rfl (integer?_toString hnow.micros_mem.1 hnow.micros_mem.2)⟩

/-- What the script does with the arguments of a request. -/
theorem recordUnits_arguments {slots : Table Slot} {key member : String} {s : SortedSet}
    (held : sortedSetAt slots key = .ok s) {limit n : Nat} (hlimit : limit < 2 ^ 63)
    (hn : n < 2 ^ 63) :
    recordUnits key (SharedSlidingLog.arguments left right now limit n member) slots =
      let answer := s.tryAdd left.micros right.micros now.micros limit (unitNames member n)
      .ok (putSortedSet slots key answer.1, if answer.2 then 1 else 0) := by
  obtain ⟨readLeft, readRight, readNow⟩ := argument_times hleft hright hnow limit n member
  set args := SharedSlidingLog.arguments left right now limit n member
  have readLimit : argument integer? args 3 = .ok (limit : Int) := by
    rw [argument_toString_nat (rfl : args[3]? = some (toString limit)), if_pos hlimit]
  have readUnits : argument integer? args 4 = .ok (n : Int) := by
    rw [argument_toString_nat (rfl : args[4]? = some (toString n)), if_pos hn]
  have readMember : argument some args 5 = .ok member := argument_eq rfl rfl
  by_cases full : limit ≤ (s.removeBelow left.micros).count left.micros right.micros
  · simp [recordUnits, readLeft, readRight, readNow, readLimit, readUnits, readMember, held, bind,
      Except.bind, pure, Except.pure, SortedSet.tryAdd, full]
  · simp [recordUnits, readLeft, readRight, readNow, readLimit, readUnits, readMember, held, bind,
      Except.bind, pure, Except.pure, SortedSet.tryAdd, SortedSet.addAll, full]

/-- The script refuses a limit and a count of units that it cannot read. -/
theorem exists_recordUnits_eq_error (slots : Table Slot) (key member : String) {limit n : Nat}
    (heavy : ¬(limit < 2 ^ 63 ∧ n < 2 ^ 63)) :
    ∃ e, recordUnits key (SharedSlidingLog.arguments left right now limit n member) slots =
      .error e := by
  obtain ⟨readLeft, readRight, readNow⟩ := argument_times hleft hright hnow limit n member
  set args := SharedSlidingLog.arguments left right now limit n member
  have readLimit := argument_toString_nat (rfl : args[3]? = some (toString limit))
  by_cases small : limit < 2 ^ 63
  · have refused := argument_toString_nat (rfl : args[4]? = some (toString n))
    rw [if_pos small] at readLimit
    rw [if_neg fun light => heavy ⟨small, light⟩] at refused
    exact ⟨_, by simp only [recordUnits, readLeft, readRight, readNow, readLimit, refused, bind,
      Except.bind, Except.error.injEq]; rfl⟩
  · rw [if_neg small] at readLimit
    exact ⟨_, by simp only [recordUnits, readLeft, readRight, readNow, readLimit, bind, Except.bind,
      Except.error.injEq]; rfl⟩

end Arguments

/-- A key that holds members gets them with the expiry that it had, and is as live as before. -/
theorem get?_live_putSortedSet (store : Store) (now : Instant) (key other : String)
    {members : SortedSet} (nonempty : members.isEmpty = false) :
    (live ⟨putSortedSet (store.live now) key members, true⟩ now).get? other =
      if key = other then
        some ⟨.sortedSet members, ((store.live now).get? key).bind Slot.expiresAt⟩
      else (store.live now).get? other := by
  rw [get?_live, putSortedSet, if_neg (by simp [nonempty]), Table.get?_insert]
  split
  · -- The expiry of a live slot lies ahead.
    rw [get?_live, Option.filter_some, if_pos]
    cases found : store.slots.get? key with
    | none => rfl
    | some slot =>
      cases live : slot.isLive now with
      | false =>
        rw [Option.filter_some, if_neg (by simp [live])]
        rfl
      | true =>
        rw [Option.filter_some, if_pos live]
        exact live
  · rw [get?_live]
    cases store.slots.get? other with
    | none => rfl
    | some slot => cases slot.isLive now <;> simp

/-- A new lifetime of a live key shows under this key only. -/
theorem get?_expire {store : Store} (available : store.available = true) {now : Instant}
    {key : String} {slot : Slot} (found : (store.live now).get? key = some slot) (lifetime : Span)
    (other : String) :
    (store.expire now key lifetime).1.slots.get? other =
      if key = other then some { slot with expiresAt := now.after? lifetime }
      else (store.live now).get? other := by
  simp [expire, available, found]

/-- A key that gets members, and then a new lifetime. -/
theorem get?_expire_putSortedSet (store : Store) (now : Instant) (key other : String)
    {members : SortedSet} (nonempty : members.isEmpty = false) (lifetime : Span) :
    (Store.expire ⟨putSortedSet (store.live now) key members, true⟩ now key lifetime).1.slots.get?
        other =
      if key = other then some ⟨.sortedSet members, now.after? lifetime⟩
      else (store.live now).get? other := by
  have live := get?_live_putSortedSet store now key
  have found := live key nonempty
  rw [if_pos rfl] at found
  rw [get?_expire rfl found]
  split
  · rfl
  · rename_i different
    rw [live other nonempty, if_neg different]

theorem available_expire (store : Store) (now : Instant) (key : String) (lifetime : Span) :
    (store.expire now key lifetime).1.available = store.available := by
  unfold expire
  split
  · dsimp only
    split <;> rfl
  · rfl

/-- What the script of the sliding log answers is what the store answers. -/
theorem eval_slidingLog (α : Type) [Arithmetic α] {store : Store}
    (available : store.available = true) {now : Instant} {key : String} {args : List String}
    {slots : Table Slot} {reply : Int}
    (ran : recordUnits key args (store.live now) = .ok (slots, reply)) :
    store.eval α now .slidingLog [key] args = (⟨slots, true⟩, .ok reply) :=
  eval_of_execute_eq_ok available ((execute_slidingLog ..).trans ran)

/-- A script that refuses its arguments changes nothing that is live. -/
theorem eval_slidingLog_refused (α : Type) [Arithmetic α] {store : Store}
    (available : store.available = true) {now : Instant} {key : String} {args : List String}
    {e : StoreError} (refused : recordUnits key args (store.live now) = .error e) :
    store.eval α now .slidingLog [key] args = (store.purge now, .error (.store e)) :=
  eval_of_execute_eq_error available ((execute_slidingLog ..).trans refused)

end Store

namespace SharedSlidingLog

/-- What a new limiter starts with. -/
theorem create?_eq_ok {params : SlidingLog.Config} {origin : UInt64} {timeout : Option Span}
    {grace : Span} {l : SharedSlidingLog} (h : create? params origin timeout grace = .ok l) :
    params.validate = .ok () ∧ (∀ key, l.keyed.state key = params) ∧
      l.members = .ofOrigin origin ∧ l.grace = grace := by
  obtain ⟨keyed, made, rfl⟩ := exists_of_map_eq_ok h
  exact ⟨(Keyed.valid_of_create? made).1, Keyed.state_of_create? made, rfl, rfl⟩

/-- The sorted set of a key after a trailing request of `n` units, and whether the request
passed. -/
def answer (l : SharedSlidingLog) (s : SortedSet) (left now : Instant) (limit n : Nat) :
    SortedSet × Bool :=
  s.tryAdd left.micros now.micros now.micros limit
    (Store.unitNames (l.members.next now.micros).2 n)

/-- A trailing request at `now` stays within the ranges of what it computes with: `left` is its
left boundary, and `lifetime` the new lifetime of its key. -/
structure Serves (l : SharedSlidingLog) (params : SlidingLog.Config) (o : AllowOptions)
    (now left : Instant) (lifetime : Span) : Prop where
  trailing : o.fixedWindow = false
  readable : now.Representable
  reaches : now.shift? (-params.window.nanos) = some left
  positive : 0 < params.limit
  limit_lt : params.limit < 2 ^ 63
  weight_lt : o.weight < 2 ^ 63
  lasts : params.window.plus? l.grace = some lifetime

/-- A request at `now` that is counted from `left` to `right` stays within the ranges of what it
computes with; `lifetime` is the new lifetime of its key. -/
structure ServesWithin (l : SharedSlidingLog) (params : SlidingLog.Config) (o : AllowOptions)
    (now left right : Instant) (lifetime : Span) : Prop where
  resolved : o.windowBounds now params.window.nanos params.fixedWindow = .ok (.ok (left, right))
  readable : now.Representable
  left_readable : left.Representable
  right_readable : right.Representable
  positive : 0 < params.limit
  limit_lt : params.limit < 2 ^ 63
  weight_lt : o.weight < 2 ^ 63
  lasts : (countedFor o params.window now right).plus? l.grace = some lifetime

/-- A trailing request is counted up to its own time, and its key lives for the window. -/
theorem Serves.within {l : SharedSlidingLog} {params : SlidingLog.Config} {o : AllowOptions}
    {now left : Instant} {lifetime : Span} (serves : l.Serves params o now left lifetime) :
    l.ServesWithin params o now left now lifetime where
  resolved := (AllowOptions.windowBounds_trailing serves.trailing).2 ⟨serves.reaches, rfl⟩
  readable := serves.readable
  left_readable := (Instant.shift?_eq_some_iff.1 serves.reaches).2
  right_readable := serves.readable
  positive := serves.positive
  limit_lt := serves.limit_lt
  weight_lt := serves.weight_lt
  lasts := by simpa [countedFor, serves.trailing] using serves.lasts

/-- **A request is one operation on the sorted set of its key.** It answers at once, whatever the
limiter's timeout; it uses up one name; and it leaves the other keys as they are. -/
theorem request_eq_within (α : Type) [Arithmetic α] {l : SharedSlidingLog}
    {params : SlidingLog.Config} {o : AllowOptions} {now left right : Instant} {lifetime : Span}
    (serves : l.ServesWithin params o now left right lifetime) {store : Store}
    (available : store.available = true) {key : String} {s : SortedSet}
    (held : Store.sortedSetAt (store.live now) key = .ok s) (coherent : s.Coherent) :
    let answer := s.tryAdd left.micros right.micros now.micros params.limit
      (Store.unitNames (l.members.next now.micros).2 o.weight)
    ∃ store', l.request (Store.context α now) store key params o =
        .ok (({ l with members := (l.members.next now.micros).1 }, store'), .ok answer.2) ∧
      store'.available = true ∧
      ∀ other, store'.slots.get? other =
        if key = other then some ⟨.sortedSet answer.1, now.after? lifetime⟩
        else (store.live now).get? other := by
  intro answer
  -- A key without members would be gone, and its lifetime could not be renewed.
  have nonempty : answer.1.isEmpty = false := by
    refine SortedSet.isEmpty_tryAdd coherent serves.positive fun none => ?_
    have units := Store.length_unitNames (l.members.next now.micros).2 o.one_le_weight
    rw [none, List.length_nil] at units
    have := o.one_le_weight
    omega
  let evaluated : Store := ⟨Store.putSortedSet (store.live now) key answer.1, true⟩
  have evaluates : store.eval α now .slidingLog [key]
      (arguments left right now params.limit o.weight (l.members.next now.micros).2) =
        (evaluated, .ok (if answer.2 then 1 else 0)) := Store.eval_slidingLog α available
      (Store.recordUnits_arguments serves.left_readable serves.right_readable serves.readable held
        serves.limit_lt serves.weight_lt)
  have decided : decision (if answer.2 then 1 else 0) = .ok answer.2 := decision_eq_ok_iff.2 rfl
  refine ⟨(evaluated.expire now key lifetime).1, ?_, ?_,
    fun other => Store.get?_expire_putSortedSet store now key other nonempty lifetime⟩
  · simp only [request, Store.now_context, serves.resolved, Store.eval_context, evaluates,
      serves.lasts, Store.refresh_context, Except.bind, decided]
  · rw [Store.available_expire]

/-- A trailing request is one operation on the sorted set of its key. -/
theorem request_eq (α : Type) [Arithmetic α] {l : SharedSlidingLog} {params : SlidingLog.Config}
    {o : AllowOptions} {now left : Instant} {lifetime : Span}
    (serves : l.Serves params o now left lifetime) {store : Store}
    (available : store.available = true) {key : String} {s : SortedSet}
    (held : Store.sortedSetAt (store.live now) key = .ok s) (coherent : s.Coherent) :
    let answer := l.answer s left now params.limit o.weight
    ∃ store', l.request (Store.context α now) store key params o =
        .ok (({ l with members := (l.members.next now.micros).1 }, store'), .ok answer.2) ∧
      store'.available = true ∧
      ∀ other, store'.slots.get? other =
        if key = other then some ⟨.sortedSet answer.1, now.after? lifetime⟩
        else (store.live now).get? other :=
  request_eq_within α serves.within available held coherent

/-- The limiter after a trailing request by key. -/
def afterRequest (l : SharedSlidingLog) (key : String) (now : Instant) : SharedSlidingLog :=
  { l with keyed := (l.keyed.obtain key).1, members := (l.members.next now.micros).1 }

/-- A request changes no parameters. -/
@[simp] theorem state_afterRequest (l : SharedSlidingLog) (key key' : String) (now : Instant) :
    (l.afterRequest key now).keyed.state key' = l.keyed.state key' :=
  Keyed.state_obtain ..

@[simp] theorem members_afterRequest (l : SharedSlidingLog) (key : String) (now : Instant) :
    (l.afterRequest key now).members = (l.members.next now.micros).1 := rfl

/-- A request by key is a request with the parameters of the key. -/
theorem allow_eq {σ : Type} (ctx : Context σ) (l : SharedSlidingLog) (state : σ) (key : String)
    (o : AllowOptions) :
    l.allow ctx state key o =
      request ctx { l with keyed := (l.keyed.obtain key).1 } state key (l.keyed.state key) o := by
  rw [← Keyed.obtain_snd]
  rfl

/-- So a trailing request by key is one operation on the sorted set of the key. -/
theorem exists_allow (α : Type) [Arithmetic α] {l : SharedSlidingLog} {key : String}
    {o : AllowOptions} {now left : Instant} {lifetime : Span}
    (serves : l.Serves (l.keyed.state key) o now left lifetime) {store : Store}
    (available : store.available = true) {s : SortedSet}
    (held : Store.sortedSetAt (store.live now) key = .ok s) (coherent : s.Coherent) :
    let answer := l.answer s left now (l.keyed.state key).limit o.weight
    ∃ store', l.allow (Store.context α now) store key o =
        .ok ((l.afterRequest key now, store'), .ok answer.2) ∧
      store'.available = true ∧
      ∀ other, store'.slots.get? other =
        if key = other then some ⟨.sortedSet answer.1, now.after? lifetime⟩
        else (store.live now).get? other := by
  intro answer
  -- The limiter that makes the request has the key in use, which shows in none of the parameters.
  let used : SharedSlidingLog := { l with keyed := (l.keyed.obtain key).1 }
  have servesUsed : used.Serves (l.keyed.state key) o now left lifetime := { serves with }
  obtain ⟨store', answers, left⟩ := used.request_eq α servesUsed available held coherent
  refine ⟨store', ?_, left⟩
  rw [allow_eq]
  exact answers

end SharedSlidingLog

end Throttle
