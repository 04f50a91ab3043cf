import Throttle.Arithmetic
import Throttle.Arithmetic.Double
import Throttle.Bucket.Elapsed
import Throttle.Bucket.Leaky
import Throttle.Bucket.Token
import Throttle.CommandLine.Options
import Throttle.CommandLine.Report
import Throttle.CommandLine.Session
import Throttle.Decimal.Fixed
import Throttle.Decimal.Numeral
import Throttle.Decimal.Shortest
import Throttle.Document.Cursor
import Throttle.Document.Layout
import Throttle.Document.Node
import Throttle.Document.Scalar
import Throttle.Document.Tag
import Throttle.Document.Token
import Throttle.Error
import Throttle.Keyed
import Throttle.Limiter
import Throttle.Limiter.Local
import Throttle.Limiter.Member
import Throttle.Limiter.Shared
import Throttle.Main
import Throttle.Options
import Throttle.Parameters
import Throttle.Policy.Config
import Throttle.Policy.Set
import Throttle.Policy.Text
import Throttle.Proofs.Window.Exactness
import Throttle.Proofs.Window.Records
import Throttle.Registry
import Throttle.Store.Execution
import Throttle.Store.Executor
import Throttle.Store.Keyspace
import Throttle.Store.Rehearsal
import Throttle.Store.Script
import Throttle.Store.SortedSet
import Throttle.Table
import Throttle.Time.Calendar
import Throttle.Time.Instant
import Throttle.Time.Span
import Throttle.Window.Log
import Throttle.Window.Sliding
import Throttle.Proofs.Arithmetic.Exact
import Throttle.Proofs.Bucket.Conformance
import Throttle.Proofs.Decimal.Whole
import Throttle.Proofs.Store.Names
import Throttle.Proofs.Shared.Request
import Throttle.Proofs.Shared.Tracking
import Throttle.Proofs.Shared.Cluster
import Throttle.Proofs.Shared.Agreement
import Throttle.Proofs.Window.HalfOpen
import Throttle.Proofs.Policy.Parameters
import Throttle.Proofs.Policy.Reload
import Throttle.Proofs.Decimal.Rational
import Throttle.Proofs.Shared.Bucket
import Throttle.Proofs.Shared.Burst
import Throttle.Proofs.Shared.Lifetime
import Throttle.Proofs.Window.Callers
import Throttle.Proofs.Bucket.Draining
import Throttle.Proofs.Decimal.Legible
import Throttle.Proofs.Store.Atomicity
import Throttle.Proofs.Isolation.Keyed
import Throttle.Proofs.Isolation.Store
import Throttle.Proofs.Isolation.Limiter
import Throttle.Proofs.Isolation.Limiters
import Throttle.Proofs.Isolation.Policies
import Throttle.Proofs.Bucket.Calls
import Throttle.Proofs.Bucket.Resizing
import Throttle.Proofs.Bucket.Settling
import Throttle.Proofs.Shared.Rates
import Throttle.Proofs.Store.Commands
import Throttle.Proofs.Shared.Admission
import Throttle.Proofs.Shared.Trimming
import Throttle.Proofs.Arithmetic.Rounding
import Throttle.Proofs.Bucket.Dominance
import Throttle.Proofs.Policy.Resources
import Throttle.Proofs.Policy.Invariant
import Throttle.Proofs.Policy.Faults
import Throttle.Proofs.Policy.Akin
import Throttle.Proofs.Policy.Unchanged
import Throttle.Proofs.Policy.Building
import Throttle.Proofs.Isolation.Origins
import Throttle.Proofs.Policy.Rebuild
import Throttle.Proofs.Shared.Outcomes
import Throttle.Proofs.Calls.Steps
import Throttle.Proofs.Calls.Interchange
import Throttle.Proofs.Shared.Expiry
import Throttle.Proofs.Shared.OwnWindows
import Throttle.Proofs.Rejection.Repeated
import Throttle.Proofs.Rejection.Reached
import Throttle.Proofs.Rejection.Standing
import Throttle.Proofs.Calls.Failures
import Throttle.Proofs.Window.Reconfigured
import Throttle.Proofs.Arithmetic.Nearest
import Throttle.Proofs.Arithmetic.Unpacked
import Throttle.Proofs.Arithmetic.Rounded
import Throttle.Proofs.Arithmetic.Packed
import Throttle.Proofs.Arithmetic.Doubles
import Throttle.Proofs.Bucket.Range
import Throttle.Proofs.Registry.FirstWriter
import Throttle.Proofs.Store.Scores
import Throttle.Proofs.Shared.Numbering
import Throttle.Proofs.Calls.Setters
import Throttle.Proofs.Shared.Counting
import Throttle.Proofs.Calls.Setters
