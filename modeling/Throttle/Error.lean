import Throttle.Time.Calendar

/-!
# Errors and faults

A rejected request is an answer, not an error. An error says why a check or a change could not be
made; it leaves the caller free to go on. A fault is a result that does not exist, or a wait without
a timer; the run ends with it.

## Main definitions

* `ConfigError`: parameters that a limiter or a policy set refuses
* `StoreError`: commands that the shared store refuses
* `LimiterError`: every error of a limiter
* `LimiterError.message`: its wording
* `Fault`: what ends a run

## Main results

* `exists_of_map_eq_ok`, `exists_of_bind_eq_ok`: what goes through has gone through its first part
-/

namespace Throttle

/-- The counts that must be positive. -/
inductive Quantity where
  | burst
  | volume
  | limit
deriving DecidableEq, Repr

/-- The name of a quantity. -/
def Quantity.text : Quantity → String
  | burst => "burst"
  | volume => "volume"
  | limit => "limit"

/-- Parameters that are refused. -/
inductive ConfigError where
  /-- The rate is not positive and finite; `shown` is its text. -/
  | badRate (shown : String)
  | notPositive (what : Quantity)
  | emptyWindow
  /-- The window is longer than any window may be. -/
  | longWindow (window : Span)
  /-- The left boundary of a fixed window does not precede its right one. -/
  | reversedWindow (left right : Instant)
  | unreadable
  | unnamedPolicy
  | duplicatePolicy (name : String)
  | sharedTokenBucket (name : String)
  /-- A policy is shared, and there is no store. -/
  | missingStore (name : String)
  | unknownPolicy (name : String)
  /-- An update changes the algorithm or the backend of a policy. -/
  | changedKind (name : String)
deriving DecidableEq, Repr

/-- The wording of a refusal. -/
def ConfigError.message : ConfigError → String
  | badRate shown => "rate must be a positive finite number, got " ++ shown
  | notPositive what => what.text ++ " must be positive"
  | emptyWindow => "window must be positive"
  | longWindow window => "window " ++ window.text ++ " is out of range"
  | reversedWindow left right =>
    "fixed window left boundary " ++ left.text ++ " must precede right boundary " ++ right.text
  | unreadable => "Failed to parse limiter config:"
  | unnamedPolicy => "policy name must not be empty"
  | duplicatePolicy name => "duplicate policy name " ++ name
  | sharedTokenBucket name => "policy " ++ name ++ ": token bucket has no distributed backend"
  | missingStore name => "policy " ++ name ++ " is distributed but no store is available"
  | unknownPolicy name => "unknown policy " ++ name
  | changedKind name => "policy " ++ name ++ ": algorithm and backend cannot change on reload"

/-- Commands that the store refuses. -/
inductive StoreError where
  | unavailable
  | missingKey
  /-- The argument at `position`, counted from one, is missing or not of its kind. -/
  | badArgument (position : Nat)
  /-- The key holds a value of another kind. -/
  | wrongKind
  /-- A field of a hash is missing or not a number. -/
  | badField (name : String)
  | unknownScript (name : String)
  | reported (text : String)
deriving DecidableEq, Repr

/-- The wording of a store's refusal. -/
def StoreError.message : StoreError → String
  | unavailable => "connection refused"
  | missingKey => "ERR script expects one key"
  | badArgument position => "ERR invalid or missing argument ARGV[" ++ toString position ++ "]"
  | wrongKind => "WRONGTYPE Operation against a key holding the wrong kind of value"
  | badField name => "ERR hash field " ++ name ++ " is not a number"
  | unknownScript name => "NOSCRIPT no script named " ++ name
  | reported text => text

/-- Why the text of a file is missing. -/
inductive FileError where
  | notFound
  /-- The bytes of the file are not UTF-8 text. -/
  | notText
deriving DecidableEq, Repr

/-- The wording of a file error. -/
def FileError.message : FileError → String
  | notFound => "No such file or directory (os error 2)"
  | notText => "stream did not contain valid UTF-8"

/-- The errors of a limiter. -/
inductive LimiterError where
  | config (error : ConfigError)
  /-- A call in fixed mode came outside its window. -/
  | outsideWindow (now left right : Instant)
  /-- Fixed mode was asked for, and no boundaries are known. -/
  | missingFixedWindow
  | store (error : StoreError)
  /-- A script replied with something that is no answer. -/
  | unexpectedReply (reply : Int)
  /-- The store did not finish within the limit. -/
  | timeout (limit : Span)
  | file (error : FileError)
deriving DecidableEq, Repr

/-- The wording of an error. -/
def LimiterError.message : LimiterError → String
  | config error => "Configuration error: " ++ error.message
  | outsideWindow now left right =>
    "Time " ++ now.text ++ " is outside the fixed window [" ++ left.text ++ ", " ++ right.text
      ++ "]"
  | missingFixedWindow => "Fixed window requested but no window boundaries are configured"
  | store error => "Store error: " ++ error.message
  | unexpectedReply reply => "Unexpected script reply: " ++ toString reply
  | timeout limit => "Store command timed out after " ++ limit.text
  | file error => "I/O error: " ++ error.message

/-- What ends a run. -/
inductive Fault where
  /-- An instant beyond those that a clock can read. -/
  | instantOutOfRange
  /-- A range whose left end lies after its right end. -/
  | reversedRange
  | spanOutOfRange
  | countOutOfRange
  | noTimer
deriving DecidableEq, Repr

theorem exists_of_map_eq_ok {ε α β : Type} {f : α → β} {x : Except ε α} {y : β}
    (h : x.map f = .ok y) : ∃ a, x = .ok a ∧ f a = y := by
  cases x with
  | error e => cases h
  | ok a => exact ⟨a, rfl, Except.ok.inj h⟩

theorem eq_error_of_map_eq_error {ε α β : Type} {f : α → β} {x : Except ε α} {e : ε}
    (h : x.map f = .error e) : x = .error e := by
  cases x with
  | error e' => cases h; rfl
  | ok a => cases h

theorem exists_of_bind_eq_ok {ε α β : Type} {f : α → Except ε β} {x : Except ε α} {y : β}
    (h : x >>= f = .ok y) : ∃ a, x = .ok a ∧ f a = .ok y := by
  cases x with
  | error e => cases h
  | ok a => exact ⟨a, rfl, h⟩

end Throttle
