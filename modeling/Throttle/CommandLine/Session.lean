import Throttle.Arithmetic.Double
import Throttle.CommandLine.Options
import Throttle.CommandLine.Report
import Throttle.Policy.Set
import Throttle.Policy.Text

/-!
# Sessions

A session checks one policy of a configuration with a row of requests, and counts the answers.

## Main definitions

* `Session`: the state between two requests
* `Session.open?`: the session of a configuration
* `Session.request`: the next request
* `Ending`: how a run ends
* `runWith`: a whole run, whose requests come at given instants

## Main results

* `Session.total_tally_request`: every request is counted once
-/

namespace Throttle.CommandLine

/-- Why a run cannot go on. -/
inductive RunError where
  | unreadable (path : String) (cause : LimiterError)
  | undefined (policy path : String)
  /-- There is no way to the store of that address. -/
  | unreachable (url : String)
  | refused (error : LimiterError)
deriving DecidableEq, Repr

namespace RunError

/-- The wording of an error. -/
def message : RunError → String
  | unreadable path _ => "loading " ++ path
  | undefined policy path => "policy " ++ policy ++ " is not defined in " ++ path
  | unreachable url => "connecting to " ++ url
  | refused error => error.message

/-- What caused an error, if that is not in its wording. -/
def cause? : RunError → Option String
  | unreadable _ cause => some cause.message
  | _ => none

end RunError

/-- The state between two requests. Numbers are in `α`. -/
structure Session (α : Type) [Arithmetic α] where
  policy : String
  count : Nat
  set : PolicySet α
  store : Store
  tally : Tally

namespace Session

variable {α : Type} [Arithmetic α]

/-- What is reported before the configuration is known. -/
def preamble (options : RunOptions) : List Report := [.starting, .version, .loading options.path]

/-- The session of a configuration that was read from `path`, and what is reported of it. A shared
store that has an address is out of reach. -/
def open? (options : RunOptions) (config : Except LimiterError LimiterConfig)
    (origin : Nat → UInt64) : List Report × Except RunError (Session α) :=
  match config with
  | .error e => ([], .error (.unreadable options.path e))
  | .ok config =>
    if (config.policy? options.policy).isNone then
      ([], .error (.undefined options.policy options.path))
    else
      let address := if config.needsStore then options.url.or config.store.url else none
      match address with
      | some url => ([], .error (.unreachable url))
      | none =>
        let reports := if config.needsStore then [.ownStore] else []
        match PolicySet.build? config config.needsStore origin with
        | .error e => (reports, .error (.refused e))
        | .ok set =>
          (reports ++ [.ready set.size, .loaded options.policy options.requests],
            .ok ⟨options.policy, options.count, set, ∅, {}⟩)

/-- The session after the `n`-th request, at the instant `now`, and what is reported of it. -/
def request (s : Session α) (now : Instant) (n : Nat) : Except Fault (Session α × Report) :=
  match PolicySet.check (Store.context α now) (s.set, s.store) s.policy s.count with
  | .error fault => .error fault
  | .ok ((set, store), entry) =>
    .ok ({ s with set := set, store := store, tally := s.tally.add entry }, .ofEntry n entry)

/-- Every request is counted once. -/
theorem total_tally_request {s s' : Session α} {now : Instant} {n : Nat} {r : Report}
    (h : s.request now n = .ok (s', r)) : s'.tally.total = s.tally.total + 1 := by
  unfold request at h
  split at h
  · cases h
  · cases h
    exact Tally.total_add ..

/-- What is reported after the requests. -/
def closing (s : Session α) : Report := .finished s.policy s.tally

/-- The requests `n`, `n + 1`, … that are left, of which the `n`-th comes at the instant `time n`,
and what is reported of them up to a fault. -/
def requests (time : Nat → Instant) : (left n : Nat) → Session α → List Report × Except Fault Unit
  | 0, _, s => ([s.closing], .ok ())
  | left + 1, n, s => match s.request (time n) n with
    | .error fault => ([], .error fault)
    | .ok (s, report) =>
      let (reports, outcome) := requests time left (n + 1) s
      (report :: reports, outcome)

end Session

/-! ## Runs -/

/-- How a run ends. -/
inductive Ending where
  | done
  | failed (error : RunError)
  | faulted (fault : Fault)
  | misused (error : UsageError)
deriving DecidableEq, Repr

/-- The exit code of an ending. -/
def Ending.code : Ending → Nat
  | done => 0
  | failed _ => 1
  | misused _ => 2
  | faulted _ => 101

/-- The reports and the ending of a run whose `n`-th request comes at the instant `time n`. -/
def runWith (α : Type) [Arithmetic α] (options : RunOptions)
    (config : Except LimiterError LimiterConfig) (origin : Nat → UInt64) (time : Nat → Instant) :
    List Report × Ending :=
  match Session.open? (α := α) options config origin with
  | (reports, .error e) => (Session.preamble options ++ reports, .failed e)
  | (reports, .ok session) =>
    let (more, outcome) := session.requests time options.requests 1
    (Session.preamble options ++ reports ++ more, match outcome with
      | .ok () => .done
      | .error fault => .faulted fault)

end Throttle.CommandLine
