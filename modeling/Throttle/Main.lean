import Std.Time.DateTime.Timestamp
import Throttle.CommandLine.Session

/-!
# The program

The program drives a policy of a configuration with a row of requests. This module reads the
configuration, waits between the requests, and writes the reports.
-/

namespace Throttle.CommandLine

/-- The text on the use of the program. -/
def usage : String :=
  let option (s : Setting) : String :=
    "  " ++ (match s.letter? with
      | some letter => "-" ++ letter.toString ++ ", "
      | none => "    ") ++ "--" ++ s.name ++ " <" ++ s.name.toUpper ++ ">\n"
  "Usage: " ++ programName ++ " [OPTIONS] --config <CONFIG> --policy <POLICY>\n\nOptions:\n"
    ++ String.join (Setting.all.map option) ++ "  -h, --help\n  -V, --version\n"

/-- The report is written. -/
def write (format : LogFormat) (r : Report) : IO Unit :=
  IO.println (match format with
    | .text => r.textLine
    | .json => r.objectLine)

/-- The configuration of a file. -/
def load (path : String) : IO (Except LimiterError LimiterConfig) := do
  try return LimiterConfig.ofBytes (← IO.FS.readBinFile path)
  catch _ => return .error (.file .notFound)

/-- The reading of the wall clock. -/
def clock : IO Instant := do
  return ⟨(← Std.Time.Timestamp.now).toNanosecondsSinceUnixEpoch.val⟩

/-- The requests from the `n`-th on, of which `left` are left. -/
def drive (options : RunOptions) (start : Nat) :
    (left n : Nat) → Session Float → IO Ending
  | 0, _, s => do
    write options.format s.closing
    return .done
  | left + 1, n, s => do
    let due := start + (n - 1) * max options.intervalMillis 1
    IO.sleep (due - (← IO.monoMsNow)).toUInt32
    match s.request (← clock) n with
    | .error fault => return .faulted fault
    | .ok (s, report) =>
      write options.format report
      drive options start left (n + 1) s

/-- A run. -/
def run (options : RunOptions) : IO Ending := do
  (Session.preamble options).forM (write options.format)
  let origin ← IO.rand 0 (2 ^ 64 - 1)
  let (reports, outcome) :=
    Session.open? options (← load options.path) fun n => (origin + n).toUInt64
  reports.forM (write options.format)
  match outcome with
  | .error e => return .failed e
  | .ok session => drive options (← IO.monoMsNow) options.requests 1 session

/-- What an ending leaves on the error stream. -/
def complain : Ending → IO Unit
  | .done => pure ()
  | .failed e => do
    IO.eprintln ("Error: " ++ e.message)
    if let some cause := e.cause? then IO.eprintln ("\nCaused by:\n    " ++ cause)
  | .faulted _ => IO.eprintln "a result does not exist"
  | .misused e => IO.eprintln ("error: " ++ e.message ++ "\n\n" ++ usage)

end Throttle.CommandLine

open Throttle.CommandLine in
/-- The program. -/
def main (args : List String) : IO UInt32 := do
  match Invocation.ofArgs args with
  | .error e =>
    let ending := Ending.misused e
    complain ending
    return ending.code.toUInt32
  | .ok .help =>
    IO.print usage
    return 0
  | .ok .version =>
    IO.println (programName ++ " " ++ programVersion)
    return 0
  | .ok (.run options) =>
    let ending ← run options
    complain ending
    return ending.code.toUInt32
