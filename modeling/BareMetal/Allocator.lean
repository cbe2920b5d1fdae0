import BareMetal.Backoff
import BareMetal.Pass.Run

/-!
# Allocators

An allocator makes passes over objects and remembers what it saw, what it counted and which passes
failed.  After a pass it looks at the object again when the object changes, or earlier: after a
fixed time if the pass has to wait, and after a delay that grows with each failure if it failed.
-/

namespace BareMetal

/-- What an allocator remembers. -/
structure Allocator where
  /-- What it saw and counted. -/
  memory : Memory := {}
  /-- The failures of its passes. -/
  failures : Failures := Failures.none

/-- The time after which an object is looked at again although it did not change. -/
def Outcome.delay? (requeueAfter : Span) : Outcome → Option Span
  | done => none
  | requeue _ => some requeueAfter

/-- The name under which the failures of an object are kept. -/
def failureName (kind : Kind) (key : ObjectKey) : String := kind.name ++ "/" ++ key.display

namespace Allocator

/-- Counts a pass. -/
def record (allocator : Allocator) (kind : Kind) (result : String) : Allocator :=
  { allocator with memory.tally := allocator.memory.tally.record kind.name result }

/-- Notes how a pass over an object ended.  Gives the time after which the object is looked at
again although it did not change, if it is. -/
def conclude (allocator : Allocator) (requeueAfter : Span) (kind : Kind) (key : ObjectKey) :
    Except PassError Outcome → Option Span × Allocator
  | .ok outcome =>
      let failures := allocator.failures.succeed (failureName kind key)
      (outcome.delay? requeueAfter, { allocator with failures }.record kind outcome.label)
  | .error _ =>
      let (delay, failures) := allocator.failures.fail (failureName kind key)
      (some delay, { allocator with failures }.record kind "error")

end Allocator

end BareMetal
