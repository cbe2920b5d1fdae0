import BareMetal.Dict
import BareMetal.Time.Span

/-!
# Retry delays

Delays that grow like the Fibonacci numbers up to a limit, and the delays of many objects side by
side: each object's delay grows with its own consecutive failures only.
-/

namespace BareMetal

/-- A sequence of delays in which each is the sum of the two before it, up to a limit. -/
structure Backoff where
  /-- The delay before the next one. -/
  previous : Span
  /-- The next delay. -/
  current : Span
  /-- The limit. -/
  limit : Span
  deriving DecidableEq

namespace Backoff

/-- The sequence that starts at `first` and is limited by `limit`. -/
def start (first limit : Span) : Backoff := ⟨.zero, first, limit⟩

/-- The sequence used for failed passes: from five seconds up to five minutes. -/
def standard : Backoff := start (.ofSeconds 5) (.ofSeconds 300)

/-- The next delay, and the sequence behind it.  There is none when the sum of the last two
delays is no longer a span. -/
def next? (backoff : Backoff) : Option (Span × Backoff) :=
  (backoff.previous.add? backoff.current).map fun sum =>
    (backoff.current, ⟨backoff.current, sum.min backoff.limit, backoff.limit⟩)

/-- The next `count` delays, and whether a sum was missing before that many were taken. -/
def take (backoff : Backoff) : (count : Nat) → List Span × Bool
  | 0 => ([], false)
  | count + 1 =>
      match backoff.next? with
      | none => ([], true)
      | some (delay, rest) =>
          let (delays, broken) := rest.take count
          (delay :: delays, broken)

end Backoff

/-- The failures in a row of one object. -/
structure FailureRun where
  /-- How many failures there were since the last success. -/
  count : Nat
  /-- The delays still to come. -/
  backoff : Backoff
  deriving DecidableEq

/-- The failures of all objects that failed since their last success, by the object's name. -/
abbrev Failures := Dict String FailureRun

namespace Failures

/-- No failures. -/
def none : Failures := Dict.empty

/-- The failures of one object since its last success. -/
def run (failures : Failures) (object : String) : FailureRun :=
  (failures.get? object).getD ⟨0, Backoff.standard⟩

/-- How often an object failed since its last success. -/
def count (failures : Failures) (object : String) : Nat := (failures.run object).count

/-- Notes a failure: the delay until the object is tried again, and the failures from then on. -/
def fail (failures : Failures) (object : String) : Span × Failures :=
  let run := failures.run object
  match run.backoff.next? with
  | some (delay, backoff) => (delay, failures.insert object ⟨run.count + 1, backoff⟩)
  | Option.none => (run.backoff.limit, failures.insert object ⟨run.count + 1, run.backoff⟩)

/-- Notes a success: the object's failures are forgotten. -/
def succeed (failures : Failures) (object : String) : Failures := failures.erase object

end Failures

end BareMetal
