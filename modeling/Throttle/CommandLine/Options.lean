import Throttle.Decimal.Numeral

/-!
# The options of a command line

A command line is a list of words. An option is given by its name or its letter, at most once; its
value is attached to it or is the next word. The words are read from the left, and the first that
cannot be read is the error.

## Main definitions

* `Setting`: the options that have a value
* `Word`: the forms of a word
* `RunOptions`: the options of a run
* `Invocation.ofArgs`: what a command line asks for

## Main results

* `Draft.set_of_given`: an option is given at most once
-/

namespace Throttle.CommandLine

/-- How reports are written. -/
inductive LogFormat where
  | text
  | json
deriving DecidableEq, Repr

/-- The options of a run. -/
structure RunOptions where
  path : String
  policy : String
  requests : Nat := 10
  /-- The time between two requests in milliseconds. -/
  intervalMillis : Nat := 100
  count : Nat := 1
  /-- The address of the shared store, instead of that of the configuration. -/
  url : Option String := none
  format : LogFormat := .text
deriving DecidableEq, Repr

/-- What a command line asks for. -/
inductive Invocation where
  | run (options : RunOptions)
  /-- A text on the use of the program. -/
  | help
  | version
deriving DecidableEq, Repr

/-! ## Options with a value -/

/-- The options that have a value. -/
inductive Setting where
  | path
  | policy
  | requests
  /-- The time between two requests. -/
  | interval
  | count
  | url
  | format
deriving DecidableEq, Repr

namespace Setting

/-- Every option. -/
def all : List Setting := [path, policy, requests, interval, count, url, format]

/-- The name of an option. -/
def name : Setting → String
  | path => "config"
  | policy => "policy"
  | requests => "requests"
  | interval => "interval-ms"
  | count => "count"
  | url => "redis-url"
  | format => "log-format"

/-- The letter of an option. -/
def letter? : Setting → Option Char
  | path => some 'c'
  | policy => some 'p'
  | requests => some 'n'
  | interval => some 'i'
  | _ => none

/-- The option of a name. -/
def ofName? (name : String) : Option Setting := all.find? (·.name = name)

/-- The option of a letter. -/
def ofLetter? (letter : Char) : Option Setting := all.find? (·.letter? = some letter)

end Setting

/-- Why a command line cannot be read. -/
inductive UsageError where
  | unexpected (word : String)
  | missingValue (setting : Setting)
  | badValue (setting : Setting) (value : String)
  | repeated (setting : Setting)
  | missing (setting : Setting)
deriving DecidableEq, Repr

/-- The wording of a usage error. -/
def UsageError.message : UsageError → String
  | unexpected word => "unexpected argument '" ++ word ++ "' found"
  | missingValue setting =>
    "a value is required for '--" ++ setting.name ++ "' but none was supplied"
  | badValue setting value =>
    "invalid value '" ++ value ++ "' for '--" ++ setting.name ++ "'"
  | repeated setting =>
    "the argument '--" ++ setting.name ++ "' cannot be used multiple times"
  | missing setting => "the argument '--" ++ setting.name ++ "' was not provided"

/-- The options that are given so far. -/
structure Draft where
  path : Option String := none
  policy : Option String := none
  requests : Option Nat := none
  /-- The time between two requests. -/
  interval : Option Nat := none
  count : Option Nat := none
  url : Option String := none
  format : Option LogFormat := none
deriving DecidableEq, Repr

namespace Draft

/-- Whether an option is given. -/
def given (d : Draft) : Setting → Bool
  | .path => d.path.isSome
  | .policy => d.policy.isSome
  | .requests => d.requests.isSome
  | .interval => d.interval.isSome
  | .count => d.count.isSome
  | .url => d.url.isSome
  | .format => d.format.isSome

/-- A number of 64 bits. -/
def number? (value : String) : Option Nat := (Numeral.natOfText? value).filter (· < 2 ^ 64)

/-- The draft with the value of an option, unless the option cannot have it. -/
def put? (d : Draft) (setting : Setting) (value : String) : Option Draft :=
  match setting with
  | .path => if value = "" then none else some { d with path := some value }
  | .policy => some { d with policy := some value }
  | .requests => (number? value).map fun n => { d with requests := some n }
  | .interval => (number? value).map fun n => { d with interval := some n }
  | .count => (number? value).map fun n => { d with count := some n }
  | .url => some { d with url := some value }
  | .format =>
    if value = "text" then some { d with format := some .text }
    else if value = "json" then some { d with format := some .json }
    else none

/-- The draft with an option that is not given yet. -/
def set (d : Draft) (setting : Setting) (value : String) : Except UsageError Draft :=
  if d.given setting then .error (.repeated setting)
  else match d.put? setting value with
    | none => .error (.badValue setting value)
    | some d => .ok d

/-- An option is given at most once. -/
theorem set_of_given {d : Draft} {setting : Setting} {value : String} (h : d.given setting) :
    d.set setting value = .error (.repeated setting) := by
  simp [set, h]

/-- The run that a draft describes. A configuration and a policy must be given. -/
def finish (d : Draft) : Except UsageError RunOptions :=
  match d.path, d.policy with
  | none, _ => .error (.missing .path)
  | _, none => .error (.missing .policy)
  | some path, some policy => .ok {
      path := path
      policy := policy
      requests := d.requests.getD 10
      intervalMillis := d.interval.getD 100
      count := d.count.getD 1
      url := d.url
      format := d.format.getD .text }

end Draft

/-! ## Words -/

/-- The forms of a word. -/
inductive Word where
  | terminator
  /-- A name after two dashes, with an attached value. -/
  | long (name : String) (value : Option String)
  /-- A letter after a dash, and what follows it. -/
  | short (letter : Char) (rest : List Char)
  | plain
deriving DecidableEq, Repr

/-- The form of a word. -/
def Word.ofText (text : String) : Word :=
  match text.toList with
  | ['-', '-'] => terminator
  | '-' :: '-' :: rest =>
    let (name, value) := rest.span (· ≠ '=')
    long (String.ofList name)
      (if value.isEmpty then none else some (String.ofList value.tail))
  | '-' :: letter :: rest => short letter rest
  | _ => plain

/-- The value that is attached to a letter; an equals sign may stand between them. -/
def attached? : List Char → Option String
  | [] => none
  | '=' :: rest => some (String.ofList rest)
  | rest => some (String.ofList rest)

namespace Invocation

mutual

/-- What a command line asks for, after the options of a draft. -/
def ofWords (d : Draft) : List String → Except UsageError Invocation
  | [] => d.finish.map .run
  | text :: rest => match Word.ofText text with
    | .terminator => match rest with
      | [] => d.finish.map .run
      | next :: _ => .error (.unexpected next)
    | .long name value => match Setting.ofName? name with
      | some setting => withValue d setting value rest
      | none =>
        if value.isSome then .error (.unexpected text)
        else if name = "help" then .ok .help
        else if name = "version" then .ok .version
        else .error (.unexpected text)
    | .short letter more => match Setting.ofLetter? letter with
      | some setting => withValue d setting (attached? more) rest
      | none =>
        if letter = 'h' then .ok .help
        else if letter = 'V' then .ok .version
        else .error (.unexpected text)
    | .plain => .error (.unexpected text)

/-- What a command line asks for that goes on with the value of an option, attached or as the next
word. -/
def withValue (d : Draft) (setting : Setting) (value : Option String) (rest : List String) :
    Except UsageError Invocation :=
  match value, rest with
  | some value, rest => match d.set setting value with
    | .error e => .error e
    | .ok d => ofWords d rest
  | none, [] => .error (.missingValue setting)
  | none, text :: rest =>
    if Word.ofText text = .plain then match d.set setting text with
      | .error e => .error e
      | .ok d => ofWords d rest
    else .error (.missingValue setting)

end

/-- What a command line asks for. -/
def ofArgs (args : List String) : Except UsageError Invocation := ofWords {} args

end Invocation

end Throttle.CommandLine
