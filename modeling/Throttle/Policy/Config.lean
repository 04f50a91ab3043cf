import Throttle.Error
import Throttle.Options

/-!
# Policy configurations

A policy is a named limit: an algorithm, where it keeps its state, and its parameters. A
configuration holds the policies of a program and the settings of the shared store.

## Main definitions

* `Algorithm`, `Backend`, `PolicyConfig`: a policy
* `StoreSettings`: how the shared store is used
* `LimiterConfig`: a configuration
* `LimiterConfig.validate`: the test of names and kinds

## Main results

* `LimiterConfig.policy?_mem`: a policy that is looked up is one of the configuration
-/

namespace Throttle

/-- The algorithms. -/
inductive Algorithm where
  | tokenBucket
  | leakyBucket
  | slidingWindow
  | slidingLog
deriving DecidableEq, Repr

/-- The name of an algorithm. -/
def Algorithm.name : Algorithm → String
  | tokenBucket => "token_bucket"
  | leakyBucket => "leaky_bucket"
  | slidingWindow => "sliding_window"
  | slidingLog => "sliding_log"

/-- The algorithm of a name. -/
def Algorithm.ofName? (name : String) : Option Algorithm :=
  [tokenBucket, leakyBucket, slidingWindow, slidingLog].find? fun a => a.name = name

/-- Where a policy keeps its state. -/
inductive Backend where
  | inProcess
  | shared
deriving DecidableEq, Repr

/-- The name of a backend. -/
def Backend.name : Backend → String
  | inProcess => "local"
  | shared => "distributed"

/-- The backend of a name. -/
def Backend.ofName? (name : String) : Option Backend :=
  [inProcess, shared].find? fun b => b.name = name

/-- A named limit. -/
structure PolicyConfig where
  /-- The name, which is also the key of its state. -/
  name : String
  algorithm : Algorithm
  backend : Backend := .inProcess
  /-- Units per second for buckets, requests in a window otherwise. -/
  limit : Nat
  burst : Nat := 0
  /-- The length of the window in milliseconds. -/
  windowMillis : Nat := 1000
deriving DecidableEq, Repr

namespace PolicyConfig

/-- The length of the window. -/
def window (p : PolicyConfig) : Span := .ofMillis p.windowMillis

/-- The resource that is checked for the policy. -/
def resource (p : PolicyConfig) : Resource := ⟨p.name, p.limit, p.burst, p.window⟩

/-- A policy has a name, and a token bucket is not shared. -/
def validate (p : PolicyConfig) : Except LimiterError Unit :=
  if p.name = "" then .error (.config .unnamedPolicy)
  else if p.algorithm = .tokenBucket ∧ p.backend = .shared then
    .error (.config (.sharedTokenBucket p.name))
  else .ok ()

end PolicyConfig

/-- How the shared store is used. -/
structure StoreSettings where
  /-- The address of the store; without one the store is in process. -/
  url : Option String := none
  /-- How long a command may take, in milliseconds. -/
  timeoutMillis : Option Nat := none
  /-- The grace by which keys outlive their windows, in seconds. -/
  graceSeconds : Nat := 60
deriving DecidableEq, Repr

namespace StoreSettings

/-- How long a command may take. -/
def timeout (s : StoreSettings) : Option Span := s.timeoutMillis.map .ofMillis

/-- The grace by which keys outlive their windows. -/
def grace (s : StoreSettings) : Span := .ofSeconds s.graceSeconds

end StoreSettings

/-- The settings of the store and the policies. -/
structure LimiterConfig where
  store : StoreSettings := {}
  policies : List PolicyConfig := []
deriving DecidableEq, Repr

namespace LimiterConfig

/-- The policies are valid, and none has a name of those before it or in `seen`. -/
def validateFrom (seen : List String) : List PolicyConfig → Except LimiterError Unit
  | [] => .ok ()
  | p :: rest =>
    match p.validate with
    | .error e => .error e
    | .ok () =>
      if p.name ∈ seen then .error (.config (.duplicatePolicy p.name))
      else validateFrom (p.name :: seen) rest

/-- Every policy is valid and no two have the same name. -/
def validate (c : LimiterConfig) : Except LimiterError Unit := validateFrom [] c.policies

/-- The policy of a name. -/
def policy? (c : LimiterConfig) (name : String) : Option PolicyConfig :=
  c.policies.find? fun p => p.name = name

/-- Whether a policy is shared. -/
def needsStore (c : LimiterConfig) : Bool := c.policies.any fun p => p.backend = .shared

/-- A policy that is looked up is one of the configuration. -/
theorem policy?_mem {c : LimiterConfig} {name : String} {p : PolicyConfig}
    (h : c.policy? name = some p) : p ∈ c.policies ∧ p.name = name :=
  ⟨List.mem_of_find?_eq_some h, by simpa using List.find?_some h⟩

end LimiterConfig

end Throttle
