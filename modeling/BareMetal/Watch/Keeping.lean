import BareMetal.Watch.Cache
import BareMetal.Watch.Queue

/-!
# What workers keep

A worker carries out a task: it follows watchers of the task's collections and keeps what the task
needs.  A worker that makes passes can only follow objects that have a name.
-/

namespace BareMetal

/-- What a worker keeps for its task. -/
inductive Keeping where
  /-- The known objects of a collection and the passes over them that wait. -/
  | passes (collection : Collection) (cache : Cache) (queue : PassQueue)
  /-- The bindings listed since a listing began. -/
  | bindings (staged : List ServerBinding)
  /-- The machines listed since a listing began. -/
  | machines (staged : List MetalMachine)

namespace Keeping

/-- What is kept for a task at first. -/
def ofTask : Task → Keeping
  | .passes collection => passes collection {} []
  | .bindingIndex => bindings []
  | .machineIndex => machines []

/-- The object that an event is about. -/
def subject? : WatchEvent Watched → Option Watched
  | .listed object => some object
  | .changed object => some object
  | .deleted object => some object
  | _ => none

/-- The objects of a collection at which another look is due after an event about the collection
itself: a listed or changed object, but not a deleted one. -/
def own : WatchEvent Watched → List ObjectAddress
  | .listed object => [object.address]
  | .changed object => [object.address]
  | _ => []

/-- The objects at which another look is due after an event of the watcher of a collection. -/
def concerned (source : Collection) (event : WatchEvent Watched) : Keeping → List ObjectAddress
  | passes collection cache _ =>
      if source = collection then own event
      else (subject? event).toList.flatMap (collection.concerned cache.known)
  | _ => []

/-- Whether an event gives something to do: to a worker that makes passes, when another look is
due; to one that keeps an index, always. -/
def isStirredBy (source : Collection) (event : WatchEvent Watched) (keeping : Keeping) : Bool :=
  match keeping with
  | passes _ _ _ => !(keeping.concerned source event).isEmpty
  | _ => true

/-- Whether an event can be followed. -/
def canFollow (event : WatchEvent Watched) : Keeping → Bool
  | passes _ _ _ => (subject? event).all fun object => object.metadata.name.isSome
  | _ => true

/-- Follows an event of the watcher of a collection, with the index as it is then. -/
def follow (debounce now : Nat) (source : Collection) (event : WatchEvent Watched)
    (keeping : Keeping) (index : Index) : Keeping × Index :=
  match keeping with
  | passes collection cache queue =>
      let queue := queue.askAll debounce now (keeping.concerned source event)
      let cache := if source = collection then cache.follow event else cache
      (passes collection cache queue, index)
  | bindings staged =>
      match event.mapObject? Watched.binding? with
      | some event =>
          let following := Following.bindings ⟨staged, index⟩ event
          (bindings following.staged, following.index)
      | none => (bindings staged, index)
  | machines staged =>
      match event.mapObject? Watched.machine? with
      | some event =>
          let following := Following.machines ⟨staged, index⟩ event
          (machines following.staged, following.index)
      | none => (machines staged, index)

/-- When the first pass is due.  No pass is made before all objects are known. -/
def nextPass? : Keeping → Option Nat
  | passes _ cache queue => if cache.isReady then queue.next? else none
  | _ => none

/-- The passes that are due, and what is kept without them. -/
def takeDue (now : Nat) : Keeping → List DuePass × Keeping
  | passes collection cache queue =>
      if cache.isReady then
        let (due, queue) := queue.split now
        (due, passes collection cache queue)
      else ([], passes collection cache queue)
  | keeping => ([], keeping)

/-- The known object at an address. -/
def get? (address : ObjectAddress) : Keeping → Option Watched
  | passes _ cache _ => cache.get? address
  | _ => none

/-- Asks for a pass as of some time. -/
def ask (debounce time : Nat) (address : ObjectAddress) : Keeping → Keeping
  | passes collection cache queue =>
      passes collection cache (queue.ask debounce time address)
  | keeping => keeping

end Keeping

end BareMetal
