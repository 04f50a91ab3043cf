import Throttle.Parameters
import Throttle.Options

/-!
# The sliding log

A sliding log records every accepted request with its units. A request is accepted if fewer units
than the limit are recorded between its boundaries, which trail the request or are fixed. Each call
forgets what is older than its left boundary.

## Main definitions

* `SlidingLog`: the state of a log
* `SlidingLog.bounds`: the boundaries between which a request is counted
* `SlidingLog.count l left right`: the units recorded between two instants
* `SlidingLog.allow l now n o`: the log after a request of `n` units, and whether it passed

## Main results

* `SlidingLog.count_forget`: forgetting does not change a count that starts no earlier
* `SlidingLog.allow_eq_ok`: what a request can do
-/

namespace Throttle

/-- The state of a sliding log. -/
structure SlidingLog where
  /-- The units that suffice to reject a request. -/
  limit : Nat
  /-- The length of the trailing window in nanoseconds. -/
  length : Int
  /-- The fixed window of requests that bring none. -/
  fixedWindow : Option FixedWindow
  /-- The accepted requests with their units, the oldest acceptance first. -/
  accepted : List (Instant × Nat)
deriving DecidableEq

namespace SlidingLog

/-- The parameters of new logs. -/
structure Config where
  limit : Nat
  window : Span
  /-- The fixed window of requests that bring none. -/
  fixedWindow : Option FixedWindow := none
deriving DecidableEq

/-- The limit must be positive and the span a window. -/
def Config.validate (c : Config) : Except LimiterError Unit := do
  checkPositive .limit c.limit
  c.window.checkWindow

/-- The parameters that pass are positive and within range. -/
theorem Config.validate_eq_ok_iff {c : Config} {u : Unit} :
    c.validate = .ok u ↔
      0 < c.limit ∧ 0 < c.window.nanos ∧ c.window.nanos ≤ Span.longestWindow.nanos := by
  rw [← @checkPositive_eq_ok_iff .limit c.limit (), ← @Span.checkWindow_eq_ok_iff c.window u]
  unfold validate
  cases checkPositive .limit c.limit <;> simp [bind, Except.bind]

/-- The parameters that a resource names. A resource brings no fixed window of its own. -/
def Config.ofResource (c : Config) (r : Resource) : Config :=
  ⟨r.limit, r.window, c.fixedWindow⟩

/-- A new log without records. -/
def start (c : Config) : SlidingLog := ⟨c.limit, c.window.nanos, c.fixedWindow, []⟩

/-- A new log, if the parameters are valid. -/
def create? (c : Config) : Except LimiterError SlidingLog := c.validate.map fun _ => start c

/-- The boundaries between which a request at `now` is counted. -/
def bounds (l : SlidingLog) (now : Instant) (o : AllowOptions) :
    Except Fault (Except LimiterError (Instant × Instant)) :=
  o.windowBounds now l.length l.fixedWindow

/-- The units of a list of records. -/
def units (records : List (Instant × Nat)) : Nat := records.foldr (fun e total => e.2 + total) 0

/-- The units recorded. -/
def size (l : SlidingLog) : Nat := units l.accepted

/-- Whether nothing is recorded. -/
def isEmpty (l : SlidingLog) : Bool := l.accepted.isEmpty

/-- The units recorded between two instants, both included. -/
def count (l : SlidingLog) (left right : Instant) : Nat :=
  units (l.accepted.filter fun e => decide (left ≤ e.1) && decide (e.1 ≤ right))

/-- The log without the records before `left`. -/
def forget (l : SlidingLog) (left : Instant) : SlidingLog :=
  { l with accepted := l.accepted.filter fun e => decide (left ≤ e.1) }

/-- The log with `n` more units at `now`. -/
def record (l : SlidingLog) (now : Instant) (n : Nat) : SlidingLog :=
  { l with accepted := l.accepted ++ [(now, n)] }

/-- The log after a request of `n` units, and whether it passed. Boundaries that cannot be resolved
leave the log as it is. Records cannot be counted between boundaries out of order, and no count
passes 64 bits. -/
def allow (l : SlidingLog) (now : Instant) (n : Nat) (o : AllowOptions) :
    Except Fault (SlidingLog × Except LimiterError Bool) :=
  match l.bounds now o with
  | .error fault => .error fault
  | .ok (.error e) => .ok (l, .error e)
  | .ok (.ok (left, right)) =>
    let kept := l.forget left
    let seen := kept.count left right
    if right < left ∧ l.isEmpty = false then .error .reversedRange
    else if 2 ^ 64 ≤ seen then .error .countOutOfRange
    else if l.limit ≤ seen then .ok (kept, .ok false)
    else if 2 ^ 64 ≤ kept.count now now + n then .error .countOutOfRange
    else .ok (kept.record now n, .ok true)

/-- The log with a new limit. -/
def setLimit (l : SlidingLog) (limit : Nat) : SlidingLog := { l with limit := limit }

/-- The log with a new trailing window. -/
def setLength (l : SlidingLog) (length : Int) : SlidingLog := { l with length := length }

/-- The log with a new fixed window. -/
def setFixedWindow (l : SlidingLog) (w : FixedWindow) : SlidingLog :=
  { l with fixedWindow := some w }

/-- Forgetting does not change a count that starts no earlier. -/
theorem count_forget (l : SlidingLog) {left left' right : Instant} (h : left' ≤ left) :
    (l.forget left').count left right = l.count left right := by
  simp only [count, forget, List.filter_filter]
  congr 2
  funext e
  simp only [Instant.le_def] at h ⊢
  by_cases h1 : left.nanos ≤ e.1.nanos
  · have : left'.nanos ≤ e.1.nanos := by omega
    simp [h1, this]
  · simp [h1]

/-- What a request can do. An error leaves the log as it is. An answer forgets what is older than
the left boundary, and an accepted request is recorded. -/
theorem allow_eq_ok {l l' : SlidingLog} {now : Instant} {n : Nat} {o : AllowOptions}
    {outcome : Except LimiterError Bool} (h : l.allow now n o = .ok (l', outcome)) :
    (∃ e, l.bounds now o = .ok (.error e) ∧ outcome = .error e ∧ l' = l) ∨
    ∃ left right, l.bounds now o = .ok (.ok (left, right)) ∧
      ((l.limit ≤ l.count left right ∧ outcome = .ok false ∧ l' = l.forget left) ∨
        (l.count left right < l.limit ∧ outcome = .ok true ∧
          l' = (l.forget left).record now n)) := by
  unfold allow at h
  split at h
  · cases h
  · rename_i e resolved
    cases h
    exact .inl ⟨e, resolved, rfl, rfl⟩
  · rename_i left right resolved
    refine .inr ⟨left, right, resolved, ?_⟩
    dsimp only at h
    rw [count_forget l (Int.le_refl _)] at h
    split at h
    · cases h
    · split at h
      · cases h
      · split at h
        · cases h
          exact .inl ⟨by assumption, rfl, rfl⟩
        · split at h
          · cases h
          · cases h
            exact .inr ⟨by omega, rfl, rfl⟩

end SlidingLog

end Throttle
