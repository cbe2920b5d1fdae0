import BareMetal.Object.Address
import BareMetal.Object.ServerClass
import BareMetal.Store.Memory

/-!
# Tasks

An allocator runs six tasks side by side.  Four look at the objects of one collection each, and
watch other collections too, because changes there concern those objects; two keep the index up to
date.
-/

namespace BareMetal

/-- A collection of objects that can be watched. -/
inductive Collection where
  /-- Metal machines. -/
  | metalMachines
  /-- Bindings. -/
  | serverBindings
  /-- Servers. -/
  | servers
  /-- Server classes. -/
  | serverClasses
  deriving DecidableEq

/-- An object of one of the collections. -/
inductive Watched where
  /-- A metal machine. -/
  | metalMachine (machine : MetalMachine)
  /-- A binding. -/
  | serverBinding (binding : ServerBinding)
  /-- A server. -/
  | server (server : Server)
  /-- A server class. -/
  | serverClass (serverClass : ServerClass)

namespace Watched

/-- The machine, if the object is one. -/
def machine? : Watched → Option MetalMachine
  | metalMachine machine => some machine
  | _ => none

/-- The binding, if the object is one. -/
def binding? : Watched → Option ServerBinding
  | serverBinding binding => some binding
  | _ => none

/-- The address of the object. -/
def address : Watched → ObjectAddress
  | .metalMachine machine => .ofObject machine
  | .serverBinding binding => .ofObject binding
  | .server object => .ofObject object
  | .serverClass object => .ofObject object

/-- The key of the object. -/
def key : Watched → ObjectKey
  | .metalMachine machine => Resource.key machine
  | .serverBinding binding => Resource.key binding
  | .server object => Resource.key object
  | .serverClass object => Resource.key object

/-- What the object tells about itself. -/
def metadata : Watched → Metadata
  | .metalMachine machine => machine.metadata
  | .serverBinding binding => binding.metadata
  | .server object => object.metadata
  | .serverClass object => object.metadata

end Watched

namespace Collection

/-- All collections. -/
def all : List Collection := [metalMachines, serverBindings, servers, serverClasses]

/-- The kind of the objects. -/
def kind : Collection → Kind
  | metalMachines => MetalMachine.kind
  | serverBindings => ServerBinding.kind
  | servers => Server.kind
  | serverClasses => ServerClass.kind

/-- An object of the collection from its JSON form. -/
def read? (collection : Collection) (json : Json) : Option Watched :=
  match collection with
  | metalMachines => (MetalMachine.read? json).map .metalMachine
  | serverBindings => (ServerBinding.read? json).map .serverBinding
  | servers => (Server.read? json).map .server
  | serverClasses => (ServerClass.read? json).map .serverClass

/-- The objects of the collection in a store; machines may be limited to one namespace. -/
def objects (collection : Collection) (space : Option String) (store : Store) : List Watched :=
  match collection with
  | metalMachines =>
      let inSpace := store.metalMachines.filter fun entry =>
        space.all fun space => entry.1.space == space
      inSpace.values.map .metalMachine
  | serverBindings => store.serverBindings.values.map .serverBinding
  | servers => store.servers.values.map .server
  | serverClasses => store.serverClasses.values.map .serverClass

end Collection

/-- A task of an allocator. -/
inductive Task where
  /-- Looks at the objects of a collection. -/
  | passes (collection : Collection)
  /-- Keeps the bindings of the index up to date. -/
  | bindingIndex
  /-- Keeps the machines of the index up to date. -/
  | machineIndex
  deriving DecidableEq

/-- The task with a word. -/
def Task.ofWord? : (word : String) → Option Task
  | "metal_machines" => some (passes .metalMachines)
  | "server_bindings" => some (passes .serverBindings)
  | "servers" => some (passes .servers)
  | "server_classes" => some (passes .serverClasses)
  | "binding_index" => some bindingIndex
  | "machine_index" => some machineIndex
  | _ => none

/-- The collections that a task watches, its own one first. -/
def Task.sources : Task → List Collection
  | passes .metalMachines => [.metalMachines, .serverBindings]
  | passes .serverBindings => [.serverBindings, .servers]
  | passes .servers => [.servers, .metalMachines, .serverBindings]
  | passes .serverClasses => [.serverClasses, .servers]
  | bindingIndex => [.serverBindings]
  | machineIndex => [.metalMachines]

/-- The objects of a collection that a change of an object of another collection concerns, where
`known` are the known objects of the collection.  A server concerns every class. -/
def Collection.concerned (collection : Collection) (known : List ObjectAddress) :
    Watched → List ObjectAddress
  | .serverBinding binding =>
      match collection with
      | metalMachines => binding.concernedMachine?.toList
      | servers => [binding.concernedServer]
      | _ => []
  | .metalMachine machine =>
      match collection with
      | servers => machine.concernedServer?.toList
      | _ => []
  | .server server =>
      match collection with
      | serverBindings => [server.concernedBinding]
      | serverClasses => known
      | _ => []
  | .serverClass _ => []

end BareMetal
