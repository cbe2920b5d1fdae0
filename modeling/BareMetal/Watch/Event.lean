import BareMetal.Index

/-!
# Watch events

A watcher keeps somebody informed about a collection of objects.  It lists the collection, object
by object between a beginning and an end, and from then on tells of each change.  It may fail at any
time; it may also give up a listing and begin anew.  An index takes over a listing only when it is
complete, and all at once.
-/

namespace BareMetal

/-- What a watcher tells about a collection. -/
inductive WatchEvent (α : Type) where
  /-- A listing begins. -/
  | listBegins
  /-- An object of the listing. -/
  | listed (object : α)
  /-- The listing is complete. -/
  | listEnds
  /-- An object was created or changed. -/
  | changed (object : α)
  /-- An object was deleted. -/
  | deleted (object : α)
  /-- The watcher failed and will try again. -/
  | failed

namespace WatchEvent

/-- The event with its object turned into another, unless the object has no counterpart. -/
def mapObject? {α β : Type} (convert : α → Option β) : WatchEvent α → Option (WatchEvent β)
  | listBegins => some listBegins
  | listed object => (convert object).map listed
  | listEnds => some listEnds
  | changed object => (convert object).map changed
  | deleted object => (convert object).map deleted
  | failed => some failed

end WatchEvent

/-- An index that follows a watcher, with the objects of the listing that is going on. -/
structure Following (α : Type) where
  /-- The objects listed since the listing began. -/
  staged : List α := []
  /-- The index. -/
  index : Index := {}

/-- Follows a watcher of bindings.  A deleted binding without a name is passed over. -/
def Following.bindings (following : Following ServerBinding) :
    WatchEvent ServerBinding → Following ServerBinding
  | .listBegins => { following with staged := [] }
  | .listed binding => { following with staged := following.staged ++ [binding] }
  | .listEnds => { staged := [], index := following.index.replaceBindings following.staged }
  | .changed binding => { following with index := following.index.applyBinding binding }
  | .deleted binding =>
      match binding.metadata.name with
      | some name => { following with index := following.index.removeBinding name }
      | none => following
  | .failed => following

/-- Follows a watcher of machines. -/
def Following.machines (following : Following MetalMachine) :
    WatchEvent MetalMachine → Following MetalMachine
  | .listBegins => { following with staged := [] }
  | .listed machine => { following with staged := following.staged ++ [machine] }
  | .listEnds => { staged := [], index := following.index.replaceMachines following.staged }
  | .changed machine => { following with index := following.index.applyMachine machine }
  | .deleted machine => { following with index := following.index.removeMachine machine.key }
  | .failed => following

end BareMetal
