import Throttle.Limiter
import Throttle.Policy.Config

/-!
# Policy sets

A policy set has one limiter for each policy of a configuration and answers checks by policy name.
A policy can be reconfigured while it is in use; its state stays. An update is tested in full before
the limiter sees it.

## Main definitions

* `PolicySet α`: the policies with their limiters
* `PolicySet.build?`: the set of a configuration
* `PolicySet.check`: a request by policy name
* `PolicySet.reconfigure`: a policy's new parameters

## Main results

* `PolicySet.check_of_unknown`: an unknown policy is an error of the entry and changes nothing
-/

namespace Throttle

/-- The test of the parameters that a policy's algorithm reads. -/
def PolicyConfig.validateParameters (α : Type) [Arithmetic α] (p : PolicyConfig) :
    Except LimiterError Unit :=
  match p.algorithm with
  | .tokenBucket => TokenBucket.Config.validate ⟨(p.limit : α), p.burst⟩
  | .leakyBucket => LeakyBucket.Config.validate ⟨(p.limit : α), p.burst⟩
  | .slidingWindow => SlidingWindow.Config.validate ⟨p.limit, p.window⟩
  | .slidingLog => SlidingLog.Config.validate ⟨p.limit, p.window, none⟩

/-- The limiter of a policy. A shared policy needs a store; its requests are named with
`origin`. -/
def PolicyConfig.limiter? (α : Type) [Arithmetic α] (p : PolicyConfig) (settings : StoreSettings)
    (hasStore : Bool) (origin : UInt64) : Except LimiterError (Limiter α) :=
  match p.backend with
  | .inProcess => match p.algorithm with
    | .tokenBucket =>
      (Keyed.create? (TokenBucket.scheme α) ⟨(p.limit : α), p.burst⟩).map .tokenBucket
    | .leakyBucket =>
      (Keyed.create? (LeakyBucket.scheme α) ⟨(p.limit : α), p.burst⟩).map .leakyBucket
    | .slidingWindow =>
      (Keyed.create? SlidingWindow.scheme ⟨p.limit, p.window⟩).map .slidingWindow
    | .slidingLog =>
      (Keyed.create? SlidingLog.scheme ⟨p.limit, p.window, none⟩).map .slidingLog
  | .shared =>
    if hasStore then match p.algorithm with
      | .tokenBucket => .error (.config (.sharedTokenBucket p.name))
      | .leakyBucket =>
        (SharedLeakyBucket.create? ⟨(p.limit : α), p.burst⟩ settings.timeout).map
          .sharedLeakyBucket
      | .slidingWindow =>
        (SharedSlidingWindow.create? ⟨p.limit, p.window⟩ origin settings.timeout
          settings.grace).map .sharedSlidingWindow
      | .slidingLog =>
        (SharedSlidingLog.create? ⟨p.limit, p.window, none⟩ origin settings.timeout
          settings.grace).map .sharedSlidingLog
    else .error (.config (.missingStore p.name))

/-- A policy with its limiter. -/
structure Policy (α : Type) [Arithmetic α] where
  config : PolicyConfig
  limiter : Limiter α

/-- The policies of a set, by name. -/
structure PolicySet (α : Type) [Arithmetic α] where
  policies : Table (Policy α)

namespace PolicySet

variable {α : Type} [Arithmetic α] {σ : Type}

/-- The policies with their limiters; the `n`-th policy has the origin `origin n`. -/
def policies? (settings : StoreSettings) (hasStore : Bool) (origin : Nat → UInt64) :
    (n : Nat) → List PolicyConfig → Table (Policy α) → Except LimiterError (Table (Policy α))
  | _, [], table => .ok table
  | n, p :: rest, table =>
    match p.limiter? α settings hasStore (origin n) with
    | .error e => .error e
    | .ok limiter =>
      policies? settings hasStore origin (n + 1) rest (table.insert p.name ⟨p, limiter⟩)

/-- The set of a configuration. Shared policies need a store, and `origin` gives each its
origin. -/
def build? (config : LimiterConfig) (hasStore : Bool) (origin : Nat → UInt64) :
    Except LimiterError (PolicySet α) :=
  match config.validate with
  | .error e => .error e
  | .ok () => (policies? config.store hasStore origin 0 config.policies ∅).map .mk

/-- The current configuration of a policy. -/
def policy? (set : PolicySet α) (name : String) : Option PolicyConfig :=
  (set.policies.get? name).map Policy.config

/-- The names of the policies. -/
def names (set : PolicySet α) : List String := set.policies.keys

/-- The number of policies. -/
def size (set : PolicySet α) : Nat := set.policies.size

/-- Whether there is no policy. -/
def isEmpty (set : PolicySet α) : Bool := set.policies.isEmpty

/-- A request of `count` units against a policy, with the parameters of its current
configuration. -/
def check (ctx : Context σ) : PolicySet α × σ → (name : String) → (count : Nat) →
    Except Fault ((PolicySet α × σ) × Entry)
  | (set, state), name, count =>
    match set.policies.get? name with
    | none => .ok ((set, state), .ofOutcome (.error (.config (.unknownPolicy name))))
    | some p =>
      (p.limiter.check ctx state p.config.resource count).map fun ((limiter, state), outcome) =>
        ((⟨set.policies.insert name { p with limiter := limiter }⟩, state), .ofOutcome outcome)

/-- The limiter after the three setters of a resource, and the error of the first that fails. The
setters before it have been applied. -/
def applyResource (l : Limiter α) (now : Instant) (r : Resource) :
    Limiter α × Except LimiterError Unit :=
  match l.setLimitFor now r with
  | .error e => (l, .error e)
  | .ok l => match l.setBurstFor r with
    | .error e => (l, .error e)
    | .ok l => match l.setWindowFor r with
      | .error e => (l, .error e)
      | .ok l => (l, .ok ())

/-- The tests of an update: it is valid by itself, its policy exists, and it keeps the policy's
algorithm and backend. -/
def updatable? (set : PolicySet α) (update : PolicyConfig) : Except LimiterError (Policy α) := do
  update.validate
  update.validateParameters α
  match set.policies.get? update.name with
  | none => .error (.config (.unknownPolicy update.name))
  | some p =>
    if p.config.algorithm = update.algorithm ∧ p.config.backend = update.backend then .ok p
    else .error (.config (.changedKind update.name))

/-- The set after an update of the policy that it names. -/
def reconfigure (set : PolicySet α) (now : Instant) (update : PolicyConfig) :
    PolicySet α × Except LimiterError Unit :=
  match set.updatable? update with
  | .error e => (set, .error e)
  | .ok p =>
    let (limiter, result) := applyResource p.limiter now update.resource
    let config := match result with
      | .ok () => update
      | .error _ => p.config
    (⟨set.policies.insert update.name ⟨config, limiter⟩⟩, result)

/-- An unknown policy is an error of the entry and changes nothing. -/
theorem check_of_unknown {ctx : Context σ} {set : PolicySet α} {state : σ} {name : String}
    {count : Nat} (h : set.policies.get? name = none) :
    check ctx (set, state) name count =
      .ok ((set, state), ⟨false, some (.config (.unknownPolicy name))⟩) := by
  simp [check, h, Entry.ofOutcome]

end PolicySet

end Throttle
