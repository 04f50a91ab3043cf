import Throttle.Parameters
import Throttle.Options

/-!
# The sliding window

A sliding window queues the instants of the accepted requests, at most as many as its limit. A
request is accepted if the queue has room, or if the oldest queued instant has left the window; it
then takes the place of that instant. Only the oldest instant is looked at, and at most one leaves
per request.

## Main definitions

* `SlidingWindow`: the state of a window
* `SlidingWindow.allow w now`: the window after a request, and whether it passed
* `SlidingWindow.setLimit`, `SlidingWindow.setLength`: changes of the parameters

## Main results

* `SlidingWindow.parameters_allow`: a request changes no parameters
* `SlidingWindow.length_queue_setLimit`: a new limit bounds the queue
-/

namespace Throttle

/-- The state of a sliding window. -/
structure SlidingWindow where
  limit : Nat
  /-- The length of the window in nanoseconds. -/
  length : Int
  /-- The instants of accepted requests, the oldest acceptance first. -/
  queue : List Instant
deriving DecidableEq, Repr

namespace SlidingWindow

/-- The parameters of new windows. -/
structure Config where
  limit : Nat
  window : Span
deriving DecidableEq, Repr

/-- The limit must be positive and the span a window. -/
def Config.validate (c : Config) : Except LimiterError Unit := do
  checkPositive .limit c.limit
  c.window.checkWindow

/-- The parameters that pass are positive and within range. -/
theorem Config.validate_eq_ok_iff {c : Config} {u : Unit} :
    c.validate = .ok u ↔
      0 < c.limit ∧ 0 < c.window.nanos ∧ c.window.nanos ≤ Span.longestWindow.nanos := by
  rw [← @checkPositive_eq_ok_iff .limit c.limit (), ← @Span.checkWindow_eq_ok_iff c.window u]
  unfold validate
  cases checkPositive .limit c.limit <;> simp [bind, Except.bind]

/-- The parameters that a resource names. -/
def Config.ofResource (r : Resource) : Config := ⟨r.limit, r.window⟩

/-- A new window with an empty queue. -/
def start (c : Config) : SlidingWindow := ⟨c.limit, c.window.nanos, []⟩

/-- A new window, if the parameters are valid. -/
def create? (c : Config) : Except LimiterError SlidingWindow := c.validate.map fun _ => start c

/-- The window after a request at `now`, and whether it passed. -/
def allow (w : SlidingWindow) (now : Instant) : SlidingWindow × Bool :=
  if w.queue.length < w.limit then ({ w with queue := w.queue ++ [now] }, true)
  else match w.queue with
    | [] => ({ w with queue := [now] }, true)
    | oldest :: newer =>
      if now.nanos - oldest.nanos < w.length then (w, false)
      else ({ w with queue := newer ++ [now] }, true)

/-- A request changes no parameters. -/
theorem parameters_allow (w : SlidingWindow) (now : Instant) :
    (w.allow now).1.limit = w.limit ∧ (w.allow now).1.length = w.length := by
  unfold allow
  split
  · exact ⟨rfl, rfl⟩
  · split
    · exact ⟨rfl, rfl⟩
    · split <;> exact ⟨rfl, rfl⟩

/-- The window with a new limit; the oldest instants beyond it leave the queue. -/
def setLimit (w : SlidingWindow) (limit : Nat) : SlidingWindow :=
  { w with limit := limit, queue := w.queue.drop (w.queue.length - limit) }

/-- The window with a new length. -/
def setLength (w : SlidingWindow) (length : Int) : SlidingWindow := { w with length := length }

/-- A new limit bounds the queue. -/
theorem length_queue_setLimit (w : SlidingWindow) (limit : Nat) :
    (w.setLimit limit).queue.length ≤ limit := by
  simp only [setLimit, List.length_drop]
  omega

end SlidingWindow

end Throttle
