import Throttle.Options

/-!
# Reports

A run reports what it does. A report has a level, a message, and data by name.

## Main definitions

* `Tally`: the requests of a run by their answers
* `Report`: what a run reports
* `Report.level`, `Report.message`, `Report.data`: its parts
* `Report.textLine`, `Report.objectLine`: a report as a line

## Main results

* `Tally.total_add`: every answer counts once
-/

namespace Throttle.CommandLine

/-- The name of the program. -/
def programName : String := "airlimit"

/-- The version of the program. -/
def programVersion : String := "0.1.0"

/-- How grave a report is. -/
inductive Level where
  | info
  | warn
deriving DecidableEq, Repr

/-- The name of a level. -/
def Level.name : Level → String
  | info => "INFO"
  | warn => "WARN"

/-- A datum of a report. -/
inductive Datum where
  | number (n : Nat)
  | text (s : String)
deriving DecidableEq, Repr

/-- The requests of a run by their answers. -/
structure Tally where
  accepted : Nat := 0
  rejected : Nat := 0
  failed : Nat := 0
deriving DecidableEq, Repr

namespace Tally

/-- The number of requests. -/
def total (t : Tally) : Nat := t.accepted + t.rejected + t.failed

/-- The tally with one more answer. -/
def add (t : Tally) (entry : Entry) : Tally :=
  if entry.error.isSome then { t with failed := t.failed + 1 }
  else if entry.allowed then { t with accepted := t.accepted + 1 }
  else { t with rejected := t.rejected + 1 }

/-- Every answer counts once. -/
@[simp] theorem total_add (t : Tally) (entry : Entry) : (t.add entry).total = t.total + 1 := by
  unfold add total
  split
  · rfl
  · split
    · simp only []; omega
    · simp only []; omega

end Tally

/-- What a run reports. -/
inductive Report where
  | starting
  | version
  | loading (path : String)
  | ownStore
  | ready (policies : Nat)
  | loaded (policy : String) (requests : Nat)
  | accepted (request : Nat)
  | rejected (request : Nat)
  | failed (request : Nat) (error : LimiterError)
  | finished (policy : String) (tally : Tally)
deriving DecidableEq, Repr

namespace Report

/-- The report of the answer to the `n`-th request. -/
def ofEntry (n : Nat) (entry : Entry) : Report :=
  match entry.error with
  | some error => failed n error
  | none => if entry.allowed then accepted n else rejected n

/-- How grave a report is. -/
def level : Report → Level
  | failed .. => .warn
  | _ => .info

/-- The message of a report. -/
def message : Report → String
  | starting => "Starting " ++ programName
  | version => "Version: " ++ programVersion
  | loading _ => "Loading limiter configuration"
  | ownStore => "No Redis URL configured, distributed policies use an in-process store"
  | ready _ => "Policy set ready"
  | loaded .. => "Policies loaded"
  | accepted _ => "Accepted"
  | rejected _ => "Rejected"
  | failed .. => "Check failed"
  | finished .. => "Run finished"

/-- The data of a report. -/
def data : Report → List (String × Datum)
  | starting | version | ownStore => []
  | loading path => [("path", .text path)]
  | ready policies => [("policies", .number policies)]
  | loaded policy requests => [("policy", .text policy), ("requests", .number requests)]
  | accepted request | rejected request => [("request", .number request)]
  | failed request error => [("request", .number request), ("error", .text error.message)]
  | finished policy tally => [
    ("policy", .text policy), ("accepted", .number tally.accepted),
    ("rejected", .number tally.rejected), ("failed", .number tally.failed)]

/-! ## Lines -/

/-- A character between double quotes. -/
def escaped (ch : Char) : String :=
  if ch = '"' then "\\\""
  else if ch = '\\' then "\\\\"
  else if ch = '\n' then "\\n"
  else if ch = '\r' then "\\r"
  else if ch = '\t' then "\\t"
  else if ch.toNat < 0x20 then
    "\\u00" ++ String.ofList [(ch.toNat / 16).digitChar, (ch.toNat % 16).digitChar]
  else ch.toString

/-- A text between double quotes. -/
def quoted (s : String) : String := "\"" ++ String.join (s.toList.map escaped) ++ "\""

/-- A datum as it is written in a line. -/
def datumText (quote : String → String) : Datum → String
  | .number n => toString n
  | .text s => quote s

/-- A report as a line of text. -/
def textLine (r : Report) : String :=
  " ".intercalate
    ((r.level.name :: [r.message]) ++ r.data.map fun d => d.1 ++ "=" ++ datumText id d.2)

/-- A report as a line that holds an object. -/
def objectLine (r : Report) : String :=
  let fields := (("message", Datum.text r.message) :: r.data).map fun d =>
    quoted d.1 ++ ":" ++ datumText quoted d.2
  "\x7b\"level\":" ++ quoted r.level.name ++ ",\"fields\":\x7b" ++ ",".intercalate fields
    ++ "\x7d\x7d"

end Report

end Throttle.CommandLine
