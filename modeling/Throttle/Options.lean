import Throttle.Error

/-!
# Requests

A request names a weight and the window in which the sliding log counts it. A resource names a
key together with the parameters that its state starts from. An entry is the answer to a check of
a resource.

## Main definitions

* `FixedWindow`: explicit window boundaries
* `AllowOptions`: the weight and the window of a request
* `AllowOptions.windowBounds`: the boundaries between which a request is counted
* `Resource`: a key with its parameters
* `Entry`: the answer to a check

## Main results

* `FixedWindow.check_eq_ok_iff`: a fixed window accepts the instants between its boundaries, both
  included
* `AllowOptions.one_le_weight`: every request weighs at least one unit
* `AllowOptions.windowBounds_contains`: a request lies between its boundaries
-/

namespace Throttle

/-- Explicit window boundaries, the left one before the right one. -/
structure FixedWindow where
  /-- The oldest instant of the window. -/
  left : Instant
  right : Instant
  left_lt_right : left < right
deriving DecidableEq

namespace FixedWindow

/-- The window between two boundaries. -/
def between? (left right : Instant) : Except LimiterError FixedWindow :=
  if h : left < right then .ok ⟨left, right, h⟩
  else .error (.config (.reversedWindow left right))

/-- The instant must lie in the window, boundaries included. -/
def check (w : FixedWindow) (now : Instant) : Except LimiterError Unit :=
  if w.left ≤ now ∧ now ≤ w.right then .ok ()
  else .error (.outsideWindow now w.left w.right)

/-- A fixed window accepts the instants between its boundaries, both included. -/
theorem check_eq_ok_iff {w : FixedWindow} {now : Instant} {u : Unit} :
    w.check now = .ok u ↔ w.left ≤ now ∧ now ≤ w.right := by
  unfold check
  split <;> simp_all

end FixedWindow

/-- The weight and the window of a request. -/
structure AllowOptions where
  /-- The units of the request; zero counts as one. -/
  count : Nat := 0
  /-- Whether the request is counted in a fixed window. -/
  fixedWindow : Bool := false
  bounds : Option FixedWindow := none
deriving DecidableEq

namespace AllowOptions

/-- The options of a request of `n` units in the trailing window. -/
def ofCount (n : Nat) : AllowOptions := { count := n }

/-- The same request in an explicit fixed window. -/
def within (o : AllowOptions) (w : FixedWindow) : AllowOptions :=
  { o with fixedWindow := true, bounds := some w }

/-- The units of a request. -/
def weight (o : AllowOptions) : Nat := max o.count 1

/-- Every request weighs at least one unit. -/
theorem one_le_weight (o : AllowOptions) : 1 ≤ o.weight := Nat.le_max_right _ _

/-- The boundaries between which a request at `now` is counted. The trailing window reaches
`trailing` nanoseconds back. A fixed window is the request's own or else `default`, and `now` must
lie in it. -/
def windowBounds (o : AllowOptions) (now : Instant) (trailing : Int)
    (default : Option FixedWindow) : Except Fault (Except LimiterError (Instant × Instant)) :=
  if o.fixedWindow then
    .ok <| match o.bounds.or default with
      | none => .error .missingFixedWindow
      | some w => (w.check now).map fun _ => (w.left, w.right)
  else match now.shift? (-trailing) with
    | none => .error .instantOutOfRange
    | some left => .ok (.ok (left, now))

/-- A request in the trailing window is counted up to its own time. -/
theorem windowBounds_trailing {o : AllowOptions} {now left right : Instant} {trailing : Int}
    {default : Option FixedWindow} (h : o.fixedWindow = false) :
    o.windowBounds now trailing default = .ok (.ok (left, right)) ↔
      now.shift? (-trailing) = some left ∧ right = now := by
  unfold windowBounds
  rw [h]
  cases now.shift? (-trailing) <;> simp [eq_comm]

/-- Requests in the trailing window have the same boundaries, whatever their weight. -/
theorem windowBounds_of_trailing {o o' : AllowOptions} (trailing : o.fixedWindow = false)
    (trailing' : o'.fixedWindow = false) (now : Instant) (length : Int)
    (default : Option FixedWindow) :
    o'.windowBounds now length default = o.windowBounds now length default := by
  simp only [windowBounds, trailing, trailing', Bool.false_eq_true, if_false]

/-- A request lies between its boundaries. -/
theorem windowBounds_contains {o : AllowOptions} {now left right : Instant} {trailing : Int}
    {default : Option FixedWindow} (nonneg : 0 ≤ trailing)
    (h : o.windowBounds now trailing default = .ok (.ok (left, right))) :
    left ≤ now ∧ now ≤ right := by
  cases mode : o.fixedWindow with
  | false =>
    obtain ⟨moved, rfl⟩ := (windowBounds_trailing mode).1 h
    have shifted := (Instant.shift?_eq_some_iff.1 moved).1
    exact ⟨Instant.le_def.2 (by omega), Int.le_refl _⟩
  | true =>
    unfold windowBounds at h
    rw [mode, if_pos rfl, Except.ok.injEq] at h
    split at h
    · cases h
    · rename_i w _
      cases checked : w.check now with
      | error e => simp [checked, Except.map] at h
      | ok u =>
        simp only [checked, Except.map, Except.ok.injEq, Prod.mk.injEq] at h
        obtain ⟨rfl, rfl⟩ := h
        exact FixedWindow.check_eq_ok_iff.1 checked

end AllowOptions

/-- A key with its parameters. What a parameter means depends on the algorithm. -/
structure Resource where
  name : String
  /-- Units per second for buckets, requests in a window otherwise. -/
  limit : Nat := 0
  burst : Nat := 0
  window : Span := ⟨0⟩
deriving DecidableEq, Repr

/-- The answer to a check. -/
structure Entry where
  allowed : Bool
  error : Option LimiterError
deriving DecidableEq, Repr

namespace Entry

/-- The entry of an outcome; an error never allows. -/
def ofOutcome : Except LimiterError Bool → Entry
  | .ok allowed => ⟨allowed, none⟩
  | .error e => ⟨false, some e⟩

end Entry

end Throttle
