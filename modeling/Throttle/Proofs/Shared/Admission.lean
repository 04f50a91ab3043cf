import Throttle.Limiter
import Throttle.Proofs.Shared.Request

/-!
# A request of the shared sliding window

The script of the window counts before it adds, and drops old members only when a request passes. To
the limiter it is one operation on the sorted set of a key, after which the key gets a new lifetime.

## Main definitions

* `SortedSet.tryAdmit`: the sorted set after a request, and whether the request passed
* `SharedSlidingWindow.Serves`: a request stays within the ranges of what it computes with

## Main results

* `SharedSlidingWindow.request_eq`, `SharedSlidingWindow.exists_allow`: what a request does
-/

namespace Throttle

namespace SortedSet

/-- The sorted set after a request with the given name, and whether the request passed. -/
def tryAdmit (s : SortedSet) (boundary now : Int) (limit : Nat) (member : String) :
    SortedSet × Bool :=
  if limit ≤ s.count boundary now then (s, false)
  else ((s.add now member).removeBelow boundary, true)

/-- A request under a limit leaves a member behind: the members that it has counted, or itself. -/
theorem isEmpty_tryAdmit {s : SortedSet} (coherent : s.Coherent) {boundary now : Int} {limit : Nat}
    (positive : 0 < limit) (order : boundary ≤ now) (member : String) :
    (s.tryAdmit boundary now limit member).1.isEmpty = false := by
  unfold tryAdmit
  split
  · rename_i full
    rw [count_eq_scoring] at full
    exact isEmpty_of_scoring_pos (Nat.lt_of_lt_of_le positive full)
  · -- The request itself is not older than the boundary.
    have added := coherent.add now member
    have scored : ((s.add now member).removeBelow boundary).score? member = some now := by
      rw [added.score?_removeBelow, score?_add, if_pos rfl]
      simp [order]
    exact (added.removeBelow boundary).isEmpty_eq_false scored

end SortedSet

namespace Store

/-- What the script does with the arguments of a request. -/
theorem recordRequest_arguments {boundary now : Instant} (hboundary : boundary.Representable)
    (hnow : now.Representable) {slots : Table Slot} {key member : String} {s : SortedSet}
    (held : sortedSetAt slots key = .ok s) {limit : Nat} (hlimit : limit < 2 ^ 63) :
    recordRequest key (SharedSlidingWindow.arguments boundary now limit member) slots =
      let answer := s.tryAdmit boundary.micros now.micros limit member
      .ok (putSortedSet slots key answer.1, if answer.2 then 1 else 0) := by
  set args := SharedSlidingWindow.arguments boundary now limit member
  have readBoundary : argument integer? args 0 = .ok boundary.micros :=
    argument_eq rfl (integer?_toString hboundary.micros_mem.1 hboundary.micros_mem.2)
  have readNow : argument integer? args 1 = .ok now.micros :=
    argument_eq rfl (integer?_toString hnow.micros_mem.1 hnow.micros_mem.2)
  have readLimit : argument integer? args 2 = .ok (limit : Int) :=
    argument_eq rfl (integer?_toString_nat hlimit)
  have readMember : argument some args 3 = .ok member := argument_eq rfl rfl
  by_cases full : limit ≤ s.count boundary.micros now.micros
  · simp [recordRequest, readBoundary, readNow, readLimit, readMember, held, bind, Except.bind,
      pure, Except.pure, SortedSet.tryAdmit, full]
  · simp [recordRequest, readBoundary, readNow, readLimit, readMember, held, bind, Except.bind,
      pure, Except.pure, SortedSet.tryAdmit, full]

end Store

namespace SharedSlidingWindow

/-- What a new limiter starts with. -/
theorem create?_eq_ok {params : SlidingWindow.Config} {origin : UInt64} {timeout : Option Span}
    {grace : Span} {l : SharedSlidingWindow} (h : create? params origin timeout grace = .ok l) :
    params.validate = .ok () ∧ (∀ key, l.keyed.state key = params) ∧
      l.members = .ofOrigin origin ∧ l.grace = grace := by
  obtain ⟨keyed, made, rfl⟩ := exists_of_map_eq_ok h
  exact ⟨(Keyed.valid_of_create? made).1, Keyed.state_of_create? made, rfl, rfl⟩

/-- A request at `now` stays within the ranges of what it computes with: `boundary` is the oldest
instant that it counts, and `lifetime` the new lifetime of its key. -/
structure Serves (l : SharedSlidingWindow) (params : SlidingWindow.Config) (now boundary : Instant)
    (lifetime : Span) : Prop where
  readable : now.Representable
  isWindow : params.window.window? = .ok params.window.nanos
  reaches : now.shift? (-params.window.nanos) = some boundary
  positive : 0 < params.limit
  limit_lt : params.limit < 2 ^ 63
  lasts : params.window.plus? l.grace = some lifetime

/-- **A request is one operation on the sorted set of its key.** It answers at once, whatever the
limiter's timeout; it uses up one name; and it leaves the other keys as they are. -/
theorem request_eq (α : Type) [Arithmetic α] {l : SharedSlidingWindow}
    {params : SlidingWindow.Config} {now boundary : Instant} {lifetime : Span}
    (serves : l.Serves params now boundary lifetime) {store : Store}
    (available : store.available = true) {key : String} {s : SortedSet}
    (held : Store.sortedSetAt (store.live now) key = .ok s) (coherent : s.Coherent) :
    let answer := s.tryAdmit boundary.micros now.micros params.limit
      (l.members.next now.micros).2
    ∃ store', l.request (Store.context α now) store key params =
        .ok (({ l with members := (l.members.next now.micros).1 }, store'), .ok answer.2) ∧
      store'.available = true ∧
      ∀ other, store'.slots.get? other =
        if key = other then some ⟨.sortedSet answer.1, now.after? lifetime⟩
        else (store.live now).get? other := by
  intro answer
  obtain ⟨moved, boundary_readable⟩ := Instant.shift?_eq_some_iff.1 serves.reaches
  have order : boundary ≤ now := Instant.le_def.2 (by omega)
  have nonempty : answer.1.isEmpty = false :=
    SortedSet.isEmpty_tryAdmit coherent serves.positive (Instant.micros_le_micros order) _
  let evaluated : Store := ⟨Store.putSortedSet (store.live now) key answer.1, true⟩
  have evaluates : store.eval α now .slidingWindow [key]
      (arguments boundary now params.limit (l.members.next now.micros).2) =
        (evaluated, .ok (if answer.2 then 1 else 0)) :=
    Store.eval_of_execute_eq_ok available ((Store.execute_slidingWindow ..).trans
      (Store.recordRequest_arguments boundary_readable serves.readable held serves.limit_lt))
  have decided : decision (if answer.2 then 1 else 0) = .ok answer.2 := decision_eq_ok_iff.2 rfl
  refine ⟨(evaluated.expire now key lifetime).1, ?_, ?_,
    fun other => Store.get?_expire_putSortedSet store now key other nonempty lifetime⟩
  · simp only [request, Store.now_context, serves.isWindow, serves.reaches, Store.eval_context,
      evaluates, serves.lasts, Store.refresh_context, Except.bind, decided]
  · rw [Store.available_expire]

/-- The limiter after a request by key. -/
def afterRequest (l : SharedSlidingWindow) (key : String) (now : Instant) : SharedSlidingWindow :=
  { l with keyed := (l.keyed.obtain key).1, members := (l.members.next now.micros).1 }

/-- A request changes no parameters. -/
@[simp] theorem state_afterRequest (l : SharedSlidingWindow) (key key' : String) (now : Instant) :
    (l.afterRequest key now).keyed.state key' = l.keyed.state key' :=
  Keyed.state_obtain ..

@[simp] theorem members_afterRequest (l : SharedSlidingWindow) (key : String) (now : Instant) :
    (l.afterRequest key now).members = (l.members.next now.micros).1 := rfl

/-- A request by key is a request with the parameters of the key. -/
theorem allow_eq {σ : Type} (ctx : Context σ) (l : SharedSlidingWindow) (state : σ) (key : String) :
    l.allow ctx state key =
      request ctx { l with keyed := (l.keyed.obtain key).1 } state key (l.keyed.state key) := by
  rw [← Keyed.obtain_snd]
  rfl

/-- So a request by key is one operation on the sorted set of the key. -/
theorem exists_allow (α : Type) [Arithmetic α] {l : SharedSlidingWindow} {key : String}
    {now boundary : Instant} {lifetime : Span}
    (serves : l.Serves (l.keyed.state key) now boundary lifetime) {store : Store}
    (available : store.available = true) {s : SortedSet}
    (held : Store.sortedSetAt (store.live now) key = .ok s) (coherent : s.Coherent) :
    let answer := s.tryAdmit boundary.micros now.micros (l.keyed.state key).limit
      (l.members.next now.micros).2
    ∃ store', l.allow (Store.context α now) store key =
        .ok ((l.afterRequest key now, store'), .ok answer.2) ∧
      store'.available = true ∧
      ∀ other, store'.slots.get? other =
        if key = other then some ⟨.sortedSet answer.1, now.after? lifetime⟩
        else (store.live now).get? other := by
  intro answer
  let used : SharedSlidingWindow := { l with keyed := (l.keyed.obtain key).1 }
  have servesUsed : used.Serves (l.keyed.state key) now boundary lifetime := { serves with }
  obtain ⟨store', answers, left⟩ := used.request_eq α servesUsed available held coherent
  refine ⟨store', ?_, left⟩
  rw [allow_eq]
  exact answers

/-- An answer to a request by key is the outcome of the call. -/
theorem step_allow {α : Type} [Arithmetic α] {l l' : SharedSlidingWindow} {now : Instant}
    {store store' : Store} {key : String} {passed : Bool}
    (answered : l.allow (Store.context α now) store key = .ok ((l', store'), .ok passed))
    (o : AllowOptions) :
    Limiter.step (Store.context α now) ((.sharedSlidingWindow l : Limiter α), store)
      (.allow key o) = .ok ((.sharedSlidingWindow l', store'), .ok (some passed)) := by
  simp only [Limiter.step, Limiter.allow, answered]
  rfl

/-- A positive limit takes the place of the key's limit. -/
theorem step_setLimit {α : Type} [Arithmetic α] (l : SharedSlidingWindow) {limit : Nat}
    (positive : 0 < limit) (key : String) (now : Instant) (store : Store) :
    Limiter.step (Store.context α now) ((.sharedSlidingWindow l : Limiter α), store)
      (.setLimit key limit) =
      .ok ((.sharedSlidingWindow { l with
        keyed := l.keyed.put key { l.keyed.state key with limit := limit } }, store),
        .ok none) := by
  have sets : SlidingWindow.sharedScheme.setLimit limit now =
      .when (checkPositive .limit limit) fun p => { p with limit := limit } := rfl
  exact Limiter.changed_setLimit_of_when sets (checkPositive_eq_ok_iff.2 positive)
    (fun keyed => .sharedSlidingWindow { l with keyed := keyed }) l.keyed key
    (.sharedSlidingWindow l) store

end SharedSlidingWindow

end Throttle
