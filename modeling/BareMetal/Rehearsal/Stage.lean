import BareMetal.Allocator
import BareMetal.Rehearsal.CallName

/-!
# The stage of a rehearsal

Allocators are rehearsed against a store and workload nodes in memory.  Pieces are put on the
stage directly.  An interference waits for a call of an allocator; when the call comes, it puts
its pieces on the stage first, and it may fail the call before it reaches the store.
-/

namespace BareMetal

/-- What can be put on the stage, or taken off it, without a call. -/
inductive Piece where
  /-- A server. -/
  | server (server : Server)
  /-- A server class. -/
  | serverClass (serverClass : ServerClass)
  /-- A binding. -/
  | serverBinding (binding : ServerBinding)
  /-- A metal machine. -/
  | metalMachine (machine : MetalMachine)
  /-- An owner machine. -/
  | machine (machine : Machine)
  /-- A cluster. -/
  | cluster (cluster : Cluster)
  /-- A workload node that runs on a server. -/
  | node (uuid : String)
  /-- No server of this name. -/
  | noServer (name : String)
  /-- No more bindings, with the message that refuses them. -/
  | noMoreBindings (message : String)

/-- Waits for a call of an allocator and interferes with it. -/
structure Interference where
  /-- The method of the calls it waits for. -/
  method : String
  /-- The target of the calls it waits for; any target if none is given. -/
  target : Option String := none
  /-- How many of the calls it lets pass first. -/
  skip : Nat := 0
  /-- With how many of the calls it interferes. -/
  times : Nat := 1
  /-- The error with which it fails a call, if it fails calls. -/
  error : Option StoreError := none
  /-- What it puts on the stage. -/
  pieces : List Piece := []

/-- Whether an interference waits for a call. -/
def Interference.waitsFor (interference : Interference) (name : CallName) : Bool :=
  interference.method == name.method &&
    interference.target.all (· == name.target)

/-- All that is on the stage. -/
structure Stage where
  /-- The objects. -/
  store : Store
  /-- The workload nodes. -/
  nodes : Nodes := Dict.empty
  /-- The clock. -/
  clock : Clock
  /-- How long allocators wait before they look again at something that is not ready. -/
  requeueAfter : Span
  /-- The allocators by name. -/
  allocators : Dict String Allocator := Dict.empty
  /-- The interferences in the order in which they were set up. -/
  interferences : List Interference := []
  /-- The calls recorded since the last step, latest first. -/
  calls : List CallName := []

namespace Stage

/-- Puts a piece on the stage. -/
def put (stage : Stage) : Piece → Stage
  | .server server => { stage with store := stage.store.addServer server }
  | .serverClass serverClass => { stage with store := stage.store.addServerClass serverClass }
  | .serverBinding binding => { stage with store := stage.store.addServerBinding binding }
  | .metalMachine machine => { stage with store := stage.store.addMetalMachine machine }
  | .machine machine => { stage with store := stage.store.addMachine machine }
  | .cluster cluster => { stage with store := stage.store.addCluster cluster }
  | .node uuid => { stage with nodes := stage.nodes.add uuid }
  | .noServer name => { stage with store := stage.store.removeServer name }
  | .noMoreBindings message => { stage with store := stage.store.failBindingCreates message }

/-- Lets the first interference that waits for a call act on it.  Gives the interference, if it
does not let the call pass, and the interferences that wait from then on. -/
def disturb (name : CallName) : List Interference → Option Interference × List Interference
  | [] => (none, [])
  | first :: rest =>
      if first.waitsFor name then
        if 0 < first.skip then (none, { first with skip := first.skip - 1 } :: rest)
        else if first.times ≤ 1 then (some first, rest)
        else (some first, { first with times := first.times - 1 } :: rest)
      else
        let (acting, rest) := disturb name rest
        (acting, first :: rest)

/-- Records a call and lets it be interfered with.  Gives the error with which the call fails, if
it fails so. -/
def record (stage : Stage) (name : CallName) : Option StoreError × Stage :=
  let (acting, interferences) := disturb name stage.interferences
  let stage := { stage with interferences, calls := name :: stage.calls }
  match acting with
  | none => (none, stage)
  | some interference => (interference.error, interference.pieces.foldl put stage)

/-- The allocator of a name; it starts with nothing remembered. -/
def allocator (stage : Stage) (name : String) : Allocator :=
  (stage.allocators.get? name).getD {}

/-- The stage with an allocator put in place of the one of its name. -/
def setAllocator (stage : Stage) (name : String) (allocator : Allocator) : Stage :=
  { stage with allocators := stage.allocators.insert name allocator }

/-- The surroundings of an allocator. -/
def surroundings (stage : Stage) (name : String) : Surroundings where
  store := stage.store
  nodes := stage.nodes
  clock := stage.clock
  memory := (stage.allocator name).memory

/-- The stage after an allocator changed its surroundings. -/
def afterwards (stage : Stage) (name : String) (world : Surroundings) : Stage :=
  { stage with store := world.store, nodes := world.nodes, clock := world.clock }.setAllocator
    name { stage.allocator name with memory := world.memory }

/-- Answers a query of an allocator from its surroundings. -/
def answerQuietly (name : String) (query : PassQuery) : StateM Stage query.Answer := fun stage =>
  let (answer, world) := Surroundings.answer query (stage.surroundings name)
  (answer, stage.afterwards name world)

/-- Answers a query of an allocator, with calls recorded and interfered with. -/
def answer (name : String) : (query : PassQuery) → StateM Stage query.Answer
  | .store call => fun stage =>
      match stage.record (.ofStore call) with
      | (some error, stage) => (.error error, stage)
      | (none, stage) => answerQuietly name (.store call) stage
  | .stampNode cluster uuid providerId => fun stage =>
      match stage.record (.ofStamp cluster uuid providerId) with
      | (some error, stage) => (.error error, stage)
      | (none, stage) => answerQuietly name (.stampNode cluster uuid providerId) stage
  | query => answerQuietly name query

/-- Lets an allocator run a pass to its end. -/
def act {α : Type} (stage : Stage) (name : String) (pass : Pass α) : α × Stage :=
  Program.interpret (answer name) pass stage

end Stage

end BareMetal
