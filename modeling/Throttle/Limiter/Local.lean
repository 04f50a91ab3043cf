import Throttle.Bucket.Leaky
import Throttle.Bucket.Token
import Throttle.Keyed
import Throttle.Window.Log
import Throttle.Window.Sliding

/-!
# Local limiters

A local limiter keeps the states of its keys in process. There is one for each of the four
algorithms.

## Main definitions

* `TokenBucket.scheme`, `LeakyBucket.scheme`, `SlidingWindow.scheme`, `SlidingLog.scheme`: the
  states of the local limiters
* `TokenBucket.decide`, `LeakyBucket.decide`, `SlidingWindow.decide`, `SlidingLog.decide`: a state
  after a request, and the answer
* `Keyed.allow`, `Keyed.check`: a request by key and by resource

## Main results

* `Keyed.check_of_error`: a resource that cannot start a state changes nothing
-/

namespace Throttle

section Buckets

variable (α : Type) [Arithmetic α]

/-- Token buckets by key. -/
def TokenBucket.scheme : Scheme (TokenBucket.Config α) (TokenBucket α) α where
  validate := TokenBucket.Config.validate
  start := TokenBucket.full
  ofResource _ r := TokenBucket.Config.ofResource r
  limitOf n := (n : α)
  setLimit rate now := .when (checkRate rate) fun b => b.setRate now rate
  setBurst burst := .when (checkPositive .burst burst) fun b => b.setCapacity burst
  setWindow _ := .unused

/-- Leaky buckets by key. -/
def LeakyBucket.scheme : Scheme (LeakyBucket.Config α) (LeakyBucket α) α where
  validate := LeakyBucket.Config.validate
  start := LeakyBucket.dry
  ofResource _ r := LeakyBucket.Config.ofResource r
  limitOf n := (n : α)
  setLimit rate now := .when (checkRate rate) fun b => b.setRate now rate
  setBurst volume := .when (checkPositive .volume volume) fun b => b.setVolume volume
  setWindow _ := .unused

end Buckets

/-- Sliding windows by key. -/
def SlidingWindow.scheme : Scheme SlidingWindow.Config SlidingWindow Nat where
  validate := SlidingWindow.Config.validate
  start := SlidingWindow.start
  ofResource _ r := SlidingWindow.Config.ofResource r
  limitOf n := n
  setLimit limit _ := .when (checkPositive .limit limit) fun w => w.setLimit limit
  setBurst _ := .unused
  setWindow window := .when window.checkWindow fun w => w.setLength window.nanos

/-- Sliding logs by key. -/
def SlidingLog.scheme : Scheme SlidingLog.Config SlidingLog Nat where
  validate := SlidingLog.Config.validate
  start := SlidingLog.start
  ofResource c r := c.ofResource r
  limitOf n := n
  setLimit limit _ := .when (checkPositive .limit limit) fun l => l.setLimit limit
  setBurst _ := .unused
  setWindow window := .when window.checkWindow fun l => l.setLength window.nanos

section Decide

variable {α : Type} [Arithmetic α]

/-- A token bucket after a request of `n` units. -/
def TokenBucket.decide (now : Instant) (n : Nat) (b : TokenBucket α) :
    Except Fault (TokenBucket α × Except LimiterError Bool) :=
  let (b, accepted) := b.allow now n
  .ok (b, .ok accepted)

/-- A leaky bucket after a request of `n` units. -/
def LeakyBucket.decide (now : Instant) (n : Nat) (b : LeakyBucket α) :
    Except Fault (LeakyBucket α × Except LimiterError Bool) :=
  let (b, accepted) := b.allow now n
  .ok (b, .ok accepted)

/-- A sliding window after a request, which takes one place. -/
def SlidingWindow.decide (now : Instant) (w : SlidingWindow) :
    Except Fault (SlidingWindow × Except LimiterError Bool) :=
  let (w, accepted) := w.allow now
  .ok (w, .ok accepted)

/-- A sliding log after a request of the options' weight in the options' window. -/
def SlidingLog.decide (now : Instant) (o : AllowOptions) (l : SlidingLog) :
    Except Fault (SlidingLog × Except LimiterError Bool) :=
  l.allow now o.weight o

end Decide

namespace Keyed

variable {P S L : Type} {scheme : Scheme P S L}

/-- A request by key, answered by `decide`. -/
def allow (decide : S → Except Fault (S × Except LimiterError Bool)) (k : Keyed scheme)
    (key : String) : Except Fault (Keyed scheme × Except LimiterError Bool) :=
  let (k, s) := k.obtain key
  (decide s).map fun (s, outcome) => (k.put key s, outcome)

/-- A request by key changes the state of the key. -/
theorem allow_eq (decide : S → Except Fault (S × Except LimiterError Bool)) (k : Keyed scheme)
    (key : String) :
    k.allow decide key = (decide (k.state key)).map fun (s, outcome) =>
      (k.put key s, outcome) := by
  rw [← obtain_snd]
  simp only [allow, put_obtain]

/-- A request by resource, answered by `decide`. -/
def check (decide : S → Except Fault (S × Except LimiterError Bool)) (k : Keyed scheme)
    (r : Resource) : Except Fault (Keyed scheme × Except LimiterError Bool) :=
  match k.obtainFor r with
  | .error e => .ok (k, .error e)
  | .ok (k, s) => (decide s).map fun (s, outcome) => (k.put r.name s, outcome)

/-- A resource that cannot start a state changes nothing. -/
theorem check_of_error {decide : S → Except Fault (S × Except LimiterError Bool)}
    {k : Keyed scheme} {r : Resource} {e : LimiterError} (h : k.obtainFor r = .error e) :
    k.check decide r = .ok (k, .error e) := by
  simp [check, h]

end Keyed

/-- The fixed window of a key's log for requests that bring none. -/
def SlidingLog.setFixedWindowAt (k : Keyed SlidingLog.scheme) (key : String) (w : FixedWindow) :
    Keyed SlidingLog.scheme :=
  let (k, l) := k.obtain key
  k.put key (l.setFixedWindow w)

end Throttle
