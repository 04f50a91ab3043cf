import Throttle.Bucket.Leaky
import Throttle.Keyed
import Throttle.Limiter.Member
import Throttle.Store.Executor
import Throttle.Window.Log
import Throttle.Window.Sliding

/-!
# Shared limiters

A shared limiter keeps in process only the parameters of its keys; the states are in a store, where
a script decides each request. A window's or a log's key gets a new lifetime after every script,
whatever its outcome, that covers the requests which can still be counted and a grace.

## Main definitions

* `SharedLeakyBucket`, `SharedSlidingWindow`, `SharedSlidingLog`: the shared limiters
* `SharedLeakyBucket.pour`, `SharedSlidingWindow.request`, `SharedSlidingLog.request`: a request
  with the parameters of its key
* `SharedSlidingWindow.shouldAllow`: a request with parameters of its own

A request takes the limiter together with the store's state to their next states and an outcome.
-/

namespace Throttle

/-- The grace by which a key outlives the window that it covers, unless another one is set. -/
def defaultGrace : Span := .ofSeconds 60

/-! ## The shared leaky bucket -/

section LeakyBucket

variable (α : Type) [Arithmetic α]

/-- Parameters of shared leaky buckets by key. A new rate counts from the next request on. -/
def LeakyBucket.sharedScheme : Scheme (LeakyBucket.Config α) (LeakyBucket.Config α) α where
  validate := LeakyBucket.Config.validate
  start := id
  ofResource _ r := LeakyBucket.Config.ofResource r
  limitOf n := (n : α)
  setLimit rate _ := .when (checkRate rate) fun p => { p with rate := rate }
  setBurst volume := .when (checkPositive .volume volume) fun p => { p with volume := volume }
  setWindow _ := .unused

/-- Leaky buckets in a store. -/
structure SharedLeakyBucket where
  keyed : Keyed (LeakyBucket.sharedScheme α)
  timeout : Option Span

end LeakyBucket

namespace SharedLeakyBucket

variable {α : Type} [Arithmetic α] {σ : Type}

/-- Buckets without parameters of any key, if the default parameters are valid. -/
def create? (params : LeakyBucket.Config α) (timeout : Option Span) :
    Except LimiterError (SharedLeakyBucket α) :=
  (Keyed.create? (LeakyBucket.sharedScheme α) params).map fun keyed => ⟨keyed, timeout⟩

/-- The arguments of the script for a request of `n` units. -/
def arguments (params : LeakyBucket.Config α) (now : Instant) (n : Nat) : List String :=
  [toString params.volume, Arithmetic.text params.rate, toString n, toString now.seconds]

/-- A request of `n` units poured into the bucket of a key. -/
def pour (l : SharedLeakyBucket α) (ctx : Context σ) (key : String) (params : LeakyBucket.Config α)
    (n : Nat) (state : σ) : Except Fault (σ × Except LimiterError Bool) :=
  (ctx.eval l.timeout .leakyBucket key (arguments params ctx.now n) state).map
    fun (state, reply) => (state, reply.bind decision)

/-- A request of `n` units by key. -/
def allow (ctx : Context σ) (l : SharedLeakyBucket α) (state : σ) (key : String) (n : Nat) :
    Except Fault ((SharedLeakyBucket α × σ) × Except LimiterError Bool) :=
  let (keyed, params) := l.keyed.obtain key
  let l := { l with keyed := keyed }
  (l.pour ctx key params n state).map fun (state, outcome) => ((l, state), outcome)

/-- A request of `n` units by resource. -/
def check (ctx : Context σ) (l : SharedLeakyBucket α) (state : σ) (r : Resource) (n : Nat) :
    Except Fault ((SharedLeakyBucket α × σ) × Except LimiterError Bool) :=
  match l.keyed.obtainFor r with
  | .error e => .ok ((l, state), .error e)
  | .ok (keyed, params) =>
    let l := { l with keyed := keyed }
    (l.pour ctx r.name params n state).map fun (state, outcome) => ((l, state), outcome)

end SharedLeakyBucket

/-! ## The shared sliding window -/

/-- Parameters of shared sliding windows by key. -/
def SlidingWindow.sharedScheme : Scheme SlidingWindow.Config SlidingWindow.Config Nat where
  validate := SlidingWindow.Config.validate
  start := id
  ofResource _ r := SlidingWindow.Config.ofResource r
  limitOf n := n
  setLimit limit _ := .when (checkPositive .limit limit) fun p => { p with limit := limit }
  setBurst _ := .unused
  setWindow window := .when window.checkWindow fun p => { p with window := window }

/-- Sliding windows in a store. -/
structure SharedSlidingWindow where
  keyed : Keyed SlidingWindow.sharedScheme
  members : MemberNames
  timeout : Option Span
  /-- The grace by which a key outlives its window. -/
  grace : Span

namespace SharedSlidingWindow

variable {σ : Type}

/-- Windows without parameters of any key, if the default parameters are valid. -/
def create? (params : SlidingWindow.Config) (origin : UInt64) (timeout : Option Span)
    (grace : Span) : Except LimiterError SharedSlidingWindow :=
  (Keyed.create? SlidingWindow.sharedScheme params).map fun keyed =>
    ⟨keyed, .ofOrigin origin, timeout, grace⟩

/-- The arguments of the script for a request named `member`. -/
def arguments (boundary now : Instant) (limit : Nat) (member : String) : List String :=
  [toString boundary.micros, toString now.micros, toString limit, member]

/-- A request with the parameters of its key. -/
def request (ctx : Context σ) (l : SharedSlidingWindow) (state : σ) (key : String)
    (params : SlidingWindow.Config) :
    Except Fault ((SharedSlidingWindow × σ) × Except LimiterError Bool) :=
  match params.window.window? with
  | .error e => .ok ((l, state), .error e)
  | .ok length =>
    match ctx.now.shift? (-length) with
    | none => .error .instantOutOfRange
    | some boundary =>
      let (members, member) := l.members.next ctx.now.micros
      match ctx.eval l.timeout .slidingWindow key
        (arguments boundary ctx.now params.limit member) state with
      | .error fault => .error fault
      | .ok (state, reply) =>
        match params.window.plus? l.grace with
        | none => .error .spanOutOfRange
        | some lifetime =>
          .ok (({ l with members := members }, ctx.refresh key lifetime state), reply.bind decision)

/-- A request with parameters of its own, which must be valid. -/
def shouldAllow (ctx : Context σ) (l : SharedSlidingWindow) (state : σ) (key : String)
    (window : Span) (limit : Nat) :
    Except Fault ((SharedSlidingWindow × σ) × Except LimiterError Bool) :=
  let params : SlidingWindow.Config := ⟨limit, window⟩
  match params.validate with
  | .error e => .ok ((l, state), .error e)
  | .ok () => request ctx l state key params

/-- A request by key, which takes one place whatever its weight. -/
def allow (ctx : Context σ) (l : SharedSlidingWindow) (state : σ) (key : String) :
    Except Fault ((SharedSlidingWindow × σ) × Except LimiterError Bool) :=
  let (keyed, params) := l.keyed.obtain key
  request ctx { l with keyed := keyed } state key params

/-- A request by resource. -/
def check (ctx : Context σ) (l : SharedSlidingWindow) (state : σ) (r : Resource) :
    Except Fault ((SharedSlidingWindow × σ) × Except LimiterError Bool) :=
  match l.keyed.obtainFor r with
  | .error e => .ok ((l, state), .error e)
  | .ok (keyed, params) => request ctx { l with keyed := keyed } state r.name params

end SharedSlidingWindow

/-! ## The shared sliding log -/

/-- Parameters of shared sliding logs by key. -/
def SlidingLog.sharedScheme : Scheme SlidingLog.Config SlidingLog.Config Nat where
  validate := SlidingLog.Config.validate
  start := id
  ofResource c r := c.ofResource r
  limitOf n := n
  setLimit limit _ := .when (checkPositive .limit limit) fun p => { p with limit := limit }
  setBurst _ := .unused
  setWindow window := .when window.checkWindow fun p => { p with window := window }

/-- Sliding logs in a store. -/
structure SharedSlidingLog where
  keyed : Keyed SlidingLog.sharedScheme
  members : MemberNames
  timeout : Option Span
  /-- The grace by which a key outlives its window. -/
  grace : Span

namespace SharedSlidingLog

variable {σ : Type}

/-- Logs without parameters of any key, if the default parameters are valid. -/
def create? (params : SlidingLog.Config) (origin : UInt64) (timeout : Option Span)
    (grace : Span) : Except LimiterError SharedSlidingLog :=
  (Keyed.create? SlidingLog.sharedScheme params).map fun keyed =>
    ⟨keyed, .ofOrigin origin, timeout, grace⟩

/-- The arguments of the script for a request of `n` units, the first of them named `member`. -/
def arguments (left right now : Instant) (limit n : Nat) (member : String) : List String :=
  [toString left.micros, toString right.micros, toString now.micros, toString limit, toString n,
    member]

/-- How long a request at `now` can be counted: in fixed mode until the right boundary, and in
trailing mode for the length of the window. -/
def countedFor (o : AllowOptions) (window : Span) (now right : Instant) : Span :=
  if o.fixedWindow then ⟨(right.nanos - now.nanos).toNat⟩ else window

/-- A request with the parameters of its key. -/
def request (ctx : Context σ) (l : SharedSlidingLog) (state : σ) (key : String)
    (params : SlidingLog.Config) (o : AllowOptions) :
    Except Fault ((SharedSlidingLog × σ) × Except LimiterError Bool) :=
  match o.windowBounds ctx.now params.window.nanos params.fixedWindow with
  | .error fault => .error fault
  | .ok (.error e) => .ok ((l, state), .error e)
  | .ok (.ok (left, right)) =>
    let (members, member) := l.members.next ctx.now.micros
    match ctx.eval l.timeout .slidingLog key
      (arguments left right ctx.now params.limit o.weight member) state with
    | .error fault => .error fault
    | .ok (state, reply) =>
      match (countedFor o params.window ctx.now right).plus? l.grace with
      | none => .error .spanOutOfRange
      | some lifetime =>
        .ok (({ l with members := members }, ctx.refresh key lifetime state), reply.bind decision)

/-- A request by key. -/
def allow (ctx : Context σ) (l : SharedSlidingLog) (state : σ) (key : String) (o : AllowOptions) :
    Except Fault ((SharedSlidingLog × σ) × Except LimiterError Bool) :=
  let (keyed, params) := l.keyed.obtain key
  request ctx { l with keyed := keyed } state key params o

/-- A request by resource. -/
def check (ctx : Context σ) (l : SharedSlidingLog) (state : σ) (r : Resource) (o : AllowOptions) :
    Except Fault ((SharedSlidingLog × σ) × Except LimiterError Bool) :=
  match l.keyed.obtainFor r with
  | .error e => .ok ((l, state), .error e)
  | .ok (keyed, params) => request ctx { l with keyed := keyed } state r.name params o

/-- The fixed window of a key for requests that bring none. -/
def setFixedWindow (l : SharedSlidingLog) (key : String) (w : FixedWindow) : SharedSlidingLog :=
  let (keyed, params) := l.keyed.obtain key
  { l with keyed := keyed.put key { params with fixedWindow := some w } }

end SharedSlidingLog

end Throttle
