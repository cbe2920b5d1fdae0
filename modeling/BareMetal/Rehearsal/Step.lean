import BareMetal.Pass.Binding
import BareMetal.Pass.Machine
import BareMetal.Pass.Server
import BareMetal.Pass.ServerClass
import BareMetal.Pass.Startup
import BareMetal.Rehearsal.Stage

/-!
# Steps of a rehearsal

A rehearsal is a sequence of steps: pieces are put on the stage, interferences are set up, the store
is called directly, and allocators work on single objects or show what they remember.
-/

namespace BareMetal

/-- A look at an allocator's index, or a change of it. -/
inductive IndexStep where
  /-- A change. -/
  | learn (event : Index.Event)
  /-- The bindings that name a machine. -/
  | bindingsFor (machine : ObjectKey)
  /-- The machines that name a server. -/
  | machinesFor (server : String)

/-- What an allocator can be told to do. -/
inductive Order where
  /-- A pass over a metal machine. -/
  | machinePass (key : ObjectKey)
  /-- A pass over a binding. -/
  | bindingPass (name : String)
  /-- A pass over a server. -/
  | serverPass (name : String)
  /-- A pass over a server class. -/
  | classPass (name : String)
  /-- Getting ready. -/
  | startup
  /-- Making sure that the class `any` is there. -/
  | ensureAny
  /-- Finding a server for a stored machine that names a class. -/
  | serverFromClass (key : ObjectKey)
  /-- Recreating the binding of a server. -/
  | healBinding (server : String)
  /-- Writing back what changed of a machine, and ending a pass with an error or none. -/
  | finishMachine (before after : MetalMachine) (error : Option PassError)
  /-- Writing back what changed of a binding, and ending a pass with an error or none. -/
  | finishBinding (before after : ServerBinding) (error : Option PassError)
  /-- Using the index. -/
  | index (step : IndexStep)
  /-- Showing the counters. -/
  | showTally
  /-- Noting the failure of an object. -/
  | fail (object : String)
  /-- Showing the failures of an object. -/
  | failureCount (object : String)
  /-- Noting the success of an object. -/
  | succeed (object : String)
  /-- Starting again with nothing remembered. -/
  | restart

/-- A step of a rehearsal. -/
inductive Step where
  /-- Puts a piece on the stage. -/
  | put (piece : Piece)
  /-- Sets up an interference. -/
  | interfere (interference : Interference)
  /-- Calls the store directly. -/
  | call (call : StoreCall)
  /-- Looks for the bindings of a machine directly. -/
  | bindingsOf (machine : ObjectKey)
  /-- Looks for the machines that name a server directly. -/
  | machinesNaming (server : String)
  /-- Sets the provider ID of a node directly. -/
  | stampNode (uuid providerId : String)
  /-- Looks at a metal machine that may be missing. -/
  | peekMachine (key : ObjectKey)
  /-- Looks at a server class that may be missing. -/
  | peekClass (name : String)
  /-- Tells an allocator to do something. -/
  | order (allocator : String) (order : Order)
  /-- Asks how long allocators wait for things that are not ready. -/
  | askRequeueAfter

/-- What a step shows. -/
inductive Shown where
  /-- Nothing in particular. -/
  | nothing
  /-- The reply of the store. -/
  | reply (call : StoreCall) (reply : call.Reply)
  /-- The reply of the workload nodes. -/
  | stamped (reply : Except StoreError Unit)
  /-- A metal machine that may be missing. -/
  | machine (machine : Option MetalMachine)
  /-- A server class that may be missing. -/
  | serverClass (serverClass : Option ServerClass)
  /-- How a pass ended. -/
  | outcome (result : Except PassError Outcome) (requeueAfter : Span)
  /-- How something ended that gives nothing. -/
  | ended (result : Except PassError Unit)
  /-- How writing back ended. -/
  | finished (result : Except PassError Unit)
  /-- The name of a server, unless there is none. -/
  | server (result : Except PassError (Option String))
  /-- The key of a machine, unless there is none. -/
  | key (result : Except PassError (Option ObjectKey))
  /-- Names. -/
  | names (names : List String)
  /-- Keys. -/
  | keys (keys : List ObjectKey)
  /-- Counters. -/
  | tally (tally : Tally)
  /-- A length of time. -/
  | span (span : Span)
  /-- A number. -/
  | number (number : Nat)
  /-- How long allocators wait for things that are not ready. -/
  | requeueAfter (span : Span)

namespace Stage

/-- A look at an index, or a change of it. -/
def useIndex (index : Index) : IndexStep → Shown × Index
  | .learn event => (.nothing, index.learn event)
  | .bindingsFor machine => (.names (index.bindingsFor machine), index)
  | .machinesFor server => (.keys (index.machinesFor server), index)

/-- Lets an allocator run a pass and shows its end. -/
def showing {α : Type} (stage : Stage) (name : String) (pass : Pass α) (present : α → Shown) :
    Shown × Stage :=
  let (result, stage) := stage.act name pass
  (present result, stage)

/-- The result of a pass that ends with the given error or succeeds. -/
def endingWith (error : Option PassError) : Except PassError Unit :=
  match error with
  | some error => .error error
  | none => .ok ()

/-- Lets an allocator do what it is told. -/
def obey (stage : Stage) (name : String) : Order → Shown × Stage
  | .machinePass key => stage.showing name (machinePass key) (.outcome · stage.requeueAfter)
  | .bindingPass object => stage.showing name (bindingPass object) (.outcome · stage.requeueAfter)
  | .serverPass object => stage.showing name (serverPass object) (.outcome · stage.requeueAfter)
  | .classPass object => stage.showing name (classPass object) (.outcome · stage.requeueAfter)
  | .startup => stage.showing name startup.run .ended
  | .ensureAny => stage.showing name ensureAny.run .ended
  | .serverFromClass key =>
      match stage.store.perform (.getMetalMachine key) with
      | (.ok machine, _) => stage.showing name (serverFromClass machine).run .server
      | (.error error, _) => (.reply (.getMetalMachine key) (.error error), stage)
  | .healBinding server => stage.showing name (healBinding server).run .key
  | .finishMachine before after error =>
      stage.showing name (finishMachine before after (endingWith error)) .finished
  | .finishBinding before after error =>
      stage.showing name (finishBinding before after (endingWith error)) .finished
  | .index step =>
      let allocator := stage.allocator name
      let (shown, index) := useIndex allocator.memory.index step
      (shown, stage.setAllocator name { allocator with memory.index := index })
  | .showTally => (.tally (stage.allocator name).memory.tally, stage)
  | .fail object =>
      let allocator := stage.allocator name
      let (span, failures) := allocator.failures.fail object
      (.span span, stage.setAllocator name { allocator with failures })
  | .failureCount object => (.number ((stage.allocator name).failures.count object), stage)
  | .succeed object =>
      let allocator := stage.allocator name
      (.nothing,
        stage.setAllocator name { allocator with failures := allocator.failures.succeed object })
  | .restart => (.nothing, stage.setAllocator name {})

/-- Performs a step and shows what it gives. -/
def perform (stage : Stage) : Step → Shown × Stage
  | .put piece => (.nothing, stage.put piece)
  | .interfere interference =>
      (.nothing, { stage with interferences := stage.interferences ++ [interference] })
  | .call call =>
      let (reply, store) := stage.store.perform call
      (.reply call reply, { stage with store })
  | .bindingsOf machine =>
      (.reply .listServerBindings (.ok (bindingsOf machine stage.store.serverBindings.values)),
        stage)
  | .machinesNaming server =>
      (.reply .listMetalMachines (.ok (machinesNaming server stage.store.metalMachines.values)),
        stage)
  | .stampNode uuid providerId =>
      let (reply, nodes) := stage.nodes.stamp uuid providerId
      (.stamped reply, { stage with nodes })
  | .peekMachine key => (.machine (stage.store.metalMachines.get? key), stage)
  | .peekClass name => (.serverClass (stage.store.serverClasses.get? name), stage)
  | .order allocator order => stage.obey allocator order
  | .askRequeueAfter => (.requeueAfter stage.requeueAfter, stage)

/-- Takes the recorded calls off the stage, first call first. -/
def takeCalls (stage : Stage) : List CallName × Stage :=
  (stage.calls.reverse, { stage with calls := [] })

end Stage

end BareMetal
