import Throttle.Arithmetic
import Throttle.Decimal.Numeral
import Throttle.Store.Keyspace
import Throttle.Store.Script

/-!
# Execution of the scripts

A store in memory knows the three scripts and runs each as one step: it reads every argument
before it changes anything, so that a refused command changes nothing.

## Main definitions

* `Store.pour`: the leaky bucket script
* `Store.recordUnits`: the sliding log script
* `Store.recordRequest`: the sliding window script
* `Store.eval`: the store after a script, and its reply

## Main results

* `Store.eval_of_execute_eq_ok`, `Store.eval_of_execute_eq_error`: the store after a script that
  succeeds, and after one that is refused

The numbers of the leaky bucket script belong to an arithmetic `α`; scores, limits and units are
64-bit integers.
-/

namespace Throttle

namespace Store

/-- The argument at `index`, read by `read?`. -/
def argument {β : Type} (read? : String → Option β) (args : List String) (index : Nat) :
    Except StoreError β :=
  match args[index]?.bind read? with
  | some value => .ok value
  | none => .error (.badArgument (index + 1))

/-- An argument in its place is read as what was written. -/
theorem argument_eq {β : Type} {read? : String → Option β} {args : List String} {index : Nat}
    {text : String} {value : β} (found : args[index]? = some text)
    (good : read? text = some value) : argument read? args index = .ok value := by
  rw [argument, found, Option.bind_some, good]

/-- The signed 64-bit integer of a text. -/
def integer? (s : String) : Option Int :=
  (Numeral.wholeOfText? s).filter fun n => decide (-(2 ^ 63) ≤ n) && decide (n < 2 ^ 63)

/-- The number in a field of a hash. -/
def numberField {α : Type} [Arithmetic α] (fields : Table String) (name : String) :
    Except StoreError α :=
  match (fields.get? name).bind Arithmetic.ofText? with
  | some value => .ok value
  | none => .error (.badField name)

/-- The fields of the hash under a key; none if the key is absent. -/
def hashAt (slots : Table Slot) (key : String) : Except StoreError (Table String) :=
  match (slots.get? key).map Slot.value with
  | some (.hash fields) => .ok fields
  | some (.sortedSet _) => .error .wrongKind
  | none => .ok ∅

/-- The sorted set under a key; empty if the key is absent. -/
def sortedSetAt (slots : Table Slot) (key : String) : Except StoreError SortedSet :=
  match (slots.get? key).map Slot.value with
  | some (.sortedSet members) => .ok members
  | some (.hash _) => .error .wrongKind
  | none => .ok ∅

/-- The slots in which a key holds a sorted set until the expiry that it had. A key does not hold
an empty set. -/
def putSortedSet (slots : Table Slot) (key : String) (members : SortedSet) : Table Slot :=
  if members.isEmpty then slots.erase key
  else slots.insert key ⟨.sortedSet members, (slots.get? key).bind Slot.expiresAt⟩

/-- The sorted set of a key is out of the way of the others. -/
theorem get?_putSortedSet (slots : Table Slot) {key other : String} (members : SortedSet)
    (different : other ≠ key) : (putSortedSet slots key members).get? other = slots.get? other := by
  unfold putSortedSet
  split
  · rw [Table.get?_erase, if_neg different.symm]
  · rw [Table.get?_insert, if_neg different.symm]

/-- The seconds for which a leaky bucket is kept: twice the time in which a full one drains, and
at least a minute. -/
def bucketLifetime {α : Type} [Arithmetic α] (volume rate : α) : Span :=
  .ofSeconds (max 60 (Arithmetic.whole (volume / rate * ((2 : Nat) : α))))

/-- The leaky bucket script. The level is the stored count with the units of the request, less what
has drained since the last call, and at least zero; above the volume the request is rejected and
the bucket is full. The last time and the parameters are stored on every call. -/
def pour (α : Type) [Arithmetic α] (now : Instant) (key : String) (args : List String)
    (slots : Table Slot) : Except StoreError (Table Slot × Int) := do
  let volume : α ← argument Arithmetic.ofText? args 0
  let rate : α ← argument Arithmetic.ofText? args 1
  let requested : α ← argument Arithmetic.ofText? args 2
  let current : α ← argument Arithmetic.ofText? args 3
  let stored ← hashAt slots key
  let fields :=
    if stored.isEmpty then
      (stored.insert "last_time" (args.getD 3 "")).insert "count" "0"
    else stored
  let lastTime : α ← numberField fields "last_time"
  let count : α ← numberField fields "count"
  let remain :=
    Arithmetic.greater (count + requested - (current - lastTime) * rate) ((0 : Nat) : α)
  let overflow := Arithmetic.below volume remain
  let fields := fields.insert "volume" (args.getD 0 "")
    |>.insert "rate" (args.getD 1 "")
    |>.insert "last_time" (args.getD 3 "")
    |>.insert "count" (if overflow then args.getD 0 "" else Arithmetic.text remain)
  let slot : Slot := ⟨.hash fields, now.after? (bucketLifetime volume rate)⟩
  return (slots.insert key slot, if overflow then 0 else 1)

/-- The names of the units of a request: the first is the request's own, the others have a number
after a colon. -/
def unitNames (member : String) (units : Nat) : List String :=
  ((List.range (units - 1)).map fun i => member ++ ":" ++ toString (i + 1)) ++ [member]

/-- The sliding log script. It drops what scores below the left boundary, and accepts the request
if fewer members than the limit score between the boundaries. -/
def recordUnits (key : String) (args : List String) (slots : Table Slot) :
    Except StoreError (Table Slot × Int) := do
  let left ← argument integer? args 0
  let right ← argument integer? args 1
  let now ← argument integer? args 2
  let limit ← argument integer? args 3
  let requested ← argument integer? args 4
  let member ← argument some args 5
  let members := (← sortedSetAt slots key).removeBelow left
  if limit ≤ members.count left right then
    return (putSortedSet slots key members, 0)
  else
    let members := (unitNames member requested.toNat).foldl (·.add now ·) members
    return (putSortedSet slots key members, 1)

/-- The sliding window script. It accepts the request if fewer members than the limit score between
the boundary and the time, and only then drops what scores below the boundary. -/
def recordRequest (key : String) (args : List String) (slots : Table Slot) :
    Except StoreError (Table Slot × Int) := do
  let boundary ← argument integer? args 0
  let now ← argument integer? args 1
  let limit ← argument integer? args 2
  let member ← argument some args 3
  let members ← sortedSetAt slots key
  if limit ≤ members.count boundary now then
    return (putSortedSet slots key members, 0)
  else
    return (putSortedSet slots key ((members.add now member).removeBelow boundary), 1)

/-- The slots after a script, and its reply. -/
def execute (α : Type) [Arithmetic α] (now : Instant) (script : Script) (key : String)
    (args : List String) (slots : Table Slot) : Except StoreError (Table Slot × Int) :=
  if script = .leakyBucket then pour α now key args slots
  else if script = .slidingLog then recordUnits key args slots
  else if script = .slidingWindow then recordRequest key args slots
  else .error (.unknownScript script.name)

theorem execute_leakyBucket (α : Type) [Arithmetic α] (now : Instant) (key : String)
    (args : List String) (slots : Table Slot) :
    execute α now .leakyBucket key args slots = pour α now key args slots :=
  if_pos rfl

theorem execute_slidingLog (α : Type) [Arithmetic α] (now : Instant) (key : String)
    (args : List String) (slots : Table Slot) :
    execute α now .slidingLog key args slots = recordUnits key args slots := by
  have other : Script.slidingLog ≠ Script.leakyBucket := fun same =>
    absurd (congrArg Script.name same) (by decide)
  rw [execute, if_neg other, if_pos rfl]

theorem execute_slidingWindow (α : Type) [Arithmetic α] (now : Instant) (key : String)
    (args : List String) (slots : Table Slot) :
    execute α now .slidingWindow key args slots = recordRequest key args slots := by
  have notBucket : Script.slidingWindow ≠ Script.leakyBucket := fun same =>
    absurd (congrArg Script.name same) (by decide)
  have notLog : Script.slidingWindow ≠ Script.slidingLog := fun same =>
    absurd (congrArg Script.name same) (by decide)
  rw [execute, if_neg notBucket, if_neg notLog, if_pos rfl]

/-- The store after a script, and its reply. The first key is the script's. -/
def eval (α : Type) [Arithmetic α] (s : Store) (now : Instant) (script : Script)
    (keys args : List String) : Store × Except LimiterError Int :=
  if s.available then
    match keys with
    | [] => (s, .error (.store .missingKey))
    | key :: _ =>
      let live := s.live now
      match execute α now script key args live with
      | .ok (slots, reply) => ({ s with slots := slots }, .ok reply)
      | .error e => ({ s with slots := live }, .error (.store e))
  else (s, .error (.store .unavailable))

/-- What a script answers is what the store answers. -/
theorem eval_of_execute_eq_ok {α : Type} [Arithmetic α] {s : Store}
    (available : s.available = true) {now : Instant} {script : Script} {key : String}
    {args : List String} {slots : Table Slot} {reply : Int}
    (ran : execute α now script key args (s.live now) = .ok (slots, reply)) :
    s.eval α now script [key] args = (⟨slots, true⟩, .ok reply) := by
  rw [eval, if_pos available]
  dsimp only
  rw [ran, available]

/-- A script that is refused changes nothing that is live. -/
theorem eval_of_execute_eq_error {α : Type} [Arithmetic α] {s : Store}
    (available : s.available = true) {now : Instant} {script : Script} {key : String}
    {args : List String} {e : StoreError}
    (refused : execute α now script key args (s.live now) = .error e) :
    s.eval α now script [key] args = (s.purge now, .error (.store e)) := by
  rw [eval, if_pos available]
  dsimp only
  rw [refused, purge]

end Store

end Throttle
