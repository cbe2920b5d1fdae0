import BareMetal.Index
import BareMetal.Pass.Outcome
import BareMetal.Pass.Program
import BareMetal.Store.Call
import BareMetal.Tally

/-!
# Passes

A pass looks at one object and does what is needed for it.  All that it learns of the world and
all that it changes goes through queries: to the store, to the workload cluster, to the
allocator's index and counters, and to the clock.
-/

namespace BareMetal

/-- What a pass can ask of its surroundings. -/
inductive PassQuery where
  /-- A call to the store. -/
  | store (call : StoreCall)
  /-- Sets the provider ID of the node that runs on a server. -/
  | stampNode (cluster : ObjectKey) (uuid providerId : String)
  /-- The bindings that the index knows for a machine. -/
  | bindingsFor (machine : ObjectKey)
  /-- The machines that the index knows for a server. -/
  | machinesFor (server : String)
  /-- Tells the index of a change. -/
  | learn (event : Index.Event)
  /-- Counts one more. -/
  | count (counter : Counter)
  /-- Reads the clock. -/
  | now

/-- What a query is answered with. -/
@[reducible] def PassQuery.Answer : PassQuery → Type
  | store call => call.Reply
  | stampNode _ _ _ => Except StoreError Unit
  | bindingsFor _ => List String
  | machinesFor _ => List ObjectKey
  | learn _ => Unit
  | count _ => Unit
  | now => Timestamp

/-- A computation over the surroundings of an allocator. -/
abbrev Pass := Program PassQuery PassQuery.Answer

/-- A pass that may fail. -/
abbrev Attempt := ExceptT PassError Pass

namespace Pass

/-- Makes a call to the store. -/
def call (call : StoreCall) : Pass call.Reply := Program.query (PassQuery.store call)

/-- Sets the provider ID of the node that runs on a server. -/
def stampNode (cluster : ObjectKey) (uuid providerId : String) : Pass (Except StoreError Unit) :=
  Program.query (PassQuery.stampNode cluster uuid providerId)

/-- The bindings that the index knows for a machine. -/
def bindingsFor (machine : ObjectKey) : Pass (List String) :=
  Program.query (PassQuery.bindingsFor machine)

/-- The machines that the index knows for a server. -/
def machinesFor (server : String) : Pass (List ObjectKey) :=
  Program.query (PassQuery.machinesFor server)

/-- Tells the index of a change. -/
def learn (event : Index.Event) : Pass Unit := Program.query (PassQuery.learn event)

/-- Tells the index of one change after the other. -/
def learnAll : List Index.Event → Pass Unit
  | [] => pure ()
  | event :: rest => do
      learn event
      learnAll rest

/-- Counts one more. -/
def count (counter : Counter) : Pass Unit := Program.query (PassQuery.count counter)

/-- Reads the clock. -/
def now : Pass Timestamp := Program.query PassQuery.now

end Pass

/-- Goes on with what a call gave, or fails with the store's error. -/
def Attempt.ofReply {α : Type} : Except StoreError α → Attempt α
  | .ok value => pure value
  | .error error => throw (.store error)

/-- Makes a call to the store and fails if it fails. -/
def Attempt.call (call : StoreCall) : Attempt call.Result := do
  Attempt.ofReply (← Pass.call call)

end BareMetal
