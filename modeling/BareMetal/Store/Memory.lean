import BareMetal.Store.Call
import BareMetal.Text.Uuid

/-!
# The store in memory

A store that keeps its objects in dictionaries and answers like the API server: creating an object
that is there already is refused, a machine that changed since it was read is not overwritten, a
missing binding can be deleted, and a machine marked for deletion goes with its last finalizer.
Every write of a server, class, binding or metal machine takes the next version number.
-/

namespace BareMetal

/-- All objects, with what is needed to stamp new ones. -/
structure Store where
  /-- Servers by name. -/
  servers : Dict String Server := Dict.empty
  /-- Server classes by name. -/
  serverClasses : Dict String ServerClass := Dict.empty
  /-- Bindings by name. -/
  serverBindings : Dict String ServerBinding := Dict.empty
  /-- Metal machines by key. -/
  metalMachines : Dict ObjectKey MetalMachine := Dict.empty
  /-- Owner machines by key. -/
  machines : Dict ObjectKey Machine := Dict.empty
  /-- Clusters by key. -/
  clusters : Dict ObjectKey Cluster := Dict.empty
  /-- The last version number that was given out. -/
  version : Nat := 0
  /-- The number behind the next unique identifier. -/
  nextUid : Nat := 0
  /-- With what message the creation of bindings is refused, if it is. -/
  createFailure : Option String := none
  /-- How many bindings were created. -/
  bindingCreates : Nat := 0

namespace Store

/-- The version that the next write gets. -/
def nextVersion (store : Store) : String := toString (store.version + 1)

/-! ## Setting up -/

/-- Puts a server in the store. -/
def addServer (store : Store) (server : Server) : Store :=
  let server := { server with metadata.resourceVersion := some store.nextVersion }
  { store with
    version := store.version + 1
    servers := store.servers.insert (server.metadata.name.getD "") server }

/-- Takes a server out of the store. -/
def removeServer (store : Store) (name : String) : Store :=
  { store with servers := store.servers.erase name }

/-- Puts a class in the store. -/
def addServerClass (store : Store) (serverClass : ServerClass) : Store :=
  let serverClass := { serverClass with metadata.resourceVersion := some store.nextVersion }
  { store with
    version := store.version + 1
    serverClasses := store.serverClasses.insert (serverClass.metadata.name.getD "") serverClass }

/-- Puts a binding in the store, whether one is there or not. -/
def addServerBinding (store : Store) (binding : ServerBinding) : Store :=
  let binding := { binding with metadata.resourceVersion := some store.nextVersion }
  { store with
    version := store.version + 1
    serverBindings := store.serverBindings.insert (binding.metadata.name.getD "") binding }

/-- Puts a metal machine in the store; one without a unique identifier gets one. -/
def addMetalMachine (store : Store) (machine : MetalMachine) : Store :=
  let stamped := { machine with metadata.resourceVersion := some store.nextVersion }
  let (machine, nextUid) :=
    match stamped.metadata.uid with
    | some _ => (stamped, store.nextUid)
    | none =>
        ({ stamped with metadata.uid := some (Text.uuid store.nextUid) }, store.nextUid + 1)
  { store with
    version := store.version + 1
    nextUid
    metalMachines := store.metalMachines.insert machine.key machine }

/-- Puts an owner machine in the store. -/
def addMachine (store : Store) (machine : Machine) : Store :=
  { store with machines := store.machines.insert machine.key machine }

/-- Puts a cluster in the store. -/
def addCluster (store : Store) (cluster : Cluster) : Store :=
  { store with clusters := store.clusters.insert cluster.key cluster }

/-- Refuses the creation of bindings from now on. -/
def failBindingCreates (store : Store) (message : String) : Store :=
  { store with createFailure := some message }

/-! ## Calls -/

/-- The value of a look-up, or the error that names what is missing. -/
def found {α : Type} (what : String) : Option α → Except StoreError α
  | some value => .ok value
  | none => .error (.notFound what)

/-- Adds a class that is not there yet. -/
def createServerClass (store : Store) (serverClass : ServerClass) :
    Except StoreError ServerClass × Store :=
  let name := serverClass.metadata.name.getD ""
  if store.serverClasses.contains name then
    (.error (.alreadyExists ("ServerClass " ++ name)), store)
  else
    let created := { serverClass with
      metadata.resourceVersion := some store.nextVersion
      metadata.uid := some (Text.uuid store.nextUid) }
    (.ok created, { store with
      version := store.version + 1
      nextUid := store.nextUid + 1
      serverClasses := store.serverClasses.insert name created })

/-- Changes a class that is there. -/
def changeServerClass (store : Store) (name : String) (change : ServerClass → ServerClass) :
    Except StoreError Unit × Store :=
  match store.serverClasses.get? name with
  | none => (.error (.notFound ("ServerClass " ++ name)), store)
  | some serverClass =>
      let changed :=
        { change serverClass with
          metadata := { serverClass.metadata with resourceVersion := some store.nextVersion } }
      (.ok (), { store with
        version := store.version + 1
        serverClasses := store.serverClasses.insert name changed })

/-- Adds a binding that is not there yet, unless creating bindings is refused. -/
def createServerBinding (store : Store) (binding : ServerBinding) :
    Except StoreError ServerBinding × Store :=
  let name := binding.metadata.name.getD ""
  match store.createFailure with
  | some message => (.error (.invalidRequest message), store)
  | none =>
      if store.serverBindings.contains name then
        (.error (.alreadyExists ("ServerBinding " ++ name)), store)
      else
        let created := { binding with
          metadata.resourceVersion := some store.nextVersion
          metadata.uid := some (Text.uuid store.nextUid) }
        (.ok created, { store with
          version := store.version + 1
          nextUid := store.nextUid + 1
          bindingCreates := store.bindingCreates + 1
          serverBindings := store.serverBindings.insert name created })

/-- Changes the status of a binding that is there. -/
def updateServerBindingStatus (store : Store) (name : String) (status : ServerBindingStatus) :
    Except StoreError Unit × Store :=
  match store.serverBindings.get? name with
  | none => (.error (.notFound ("ServerBinding " ++ name)), store)
  | some binding =>
      let changed := { binding with
        metadata.resourceVersion := some store.nextVersion
        status := some status }
      (.ok (), { store with
        version := store.version + 1
        serverBindings := store.serverBindings.insert name changed })

/-- Whether a machine was changed since the state of it that `version` names, if any is named. -/
def isStale (machine : MetalMachine) : (version : Option String) → Bool
  | none => false
  | some version => machine.metadata.resourceVersion != some version

/-- Whether nothing holds a machine back that is marked for deletion. -/
def isReleased (machine : MetalMachine) : Bool :=
  machine.isDeleting && machine.metadata.finalizers.all List.isEmpty

/-- Changes the finalizers and the request of a machine that did not change since it was read.  A
machine that is marked for deletion goes if no finalizer is left. -/
def updateMetalMachine (store : Store) (machine : MetalMachine) :
    Except StoreError MetalMachine × Store :=
  let key := machine.key
  match store.metalMachines.get? key with
  | none => (.error (.notFound ("MetalMachine " ++ key.display)), store)
  | some stored =>
      if isStale stored machine.metadata.resourceVersion then
        (.error (.conflict ("MetalMachine " ++ key.display)), store)
      else
        let updated := { stored with
          metadata.finalizers := machine.metadata.finalizers
          metadata.resourceVersion := some store.nextVersion
          spec := machine.spec }
        (.ok updated, { store with
          version := store.version + 1
          metalMachines :=
            if isReleased updated then store.metalMachines.erase key
            else store.metalMachines.insert key updated })

/-- Changes the status of a machine that is there. -/
def updateMetalMachineStatus (store : Store) (key : ObjectKey) (status : MetalMachineStatus) :
    Except StoreError Unit × Store :=
  match store.metalMachines.get? key with
  | none => (.error (.notFound ("MetalMachine " ++ key.display)), store)
  | some machine =>
      let changed := { machine with
        metadata.resourceVersion := some store.nextVersion
        status := some status }
      (.ok (), { store with
        version := store.version + 1
        metalMachines := store.metalMachines.insert key changed })

/-- What a call gives, and the store after it. -/
def perform (store : Store) : (call : StoreCall) → call.Reply × Store
  | .getServer name => (found ("Server " ++ name) (store.servers.get? name), store)
  | .listServers => (.ok store.servers.values, store)
  | .getServerClass name => (found ("ServerClass " ++ name) (store.serverClasses.get? name), store)
  | .listServerClasses => (.ok store.serverClasses.values, store)
  | .createServerClass serverClass => store.createServerClass serverClass
  | .updateServerClassSpec name spec =>
      store.changeServerClass name fun serverClass => { serverClass with spec }
  | .updateServerClassStatus name status =>
      store.changeServerClass name fun serverClass => { serverClass with status := some status }
  | .getServerBinding name =>
      (found ("ServerBinding " ++ name) (store.serverBindings.get? name), store)
  | .listServerBindings => (.ok store.serverBindings.values, store)
  | .createServerBinding binding => store.createServerBinding binding
  | .deleteServerBinding name =>
      (.ok (), { store with serverBindings := store.serverBindings.erase name })
  | .updateServerBindingStatus name status => store.updateServerBindingStatus name status
  | .getMetalMachine key =>
      (found ("MetalMachine " ++ key.display) (store.metalMachines.get? key), store)
  | .listMetalMachines => (.ok store.metalMachines.values, store)
  | .updateMetalMachine machine => store.updateMetalMachine machine
  | .updateMetalMachineStatus key status => store.updateMetalMachineStatus key status
  | .getMachine key => (found ("Machine " ++ key.display) (store.machines.get? key), store)
  | .getCluster key => (found ("Cluster " ++ key.display) (store.clusters.get? key), store)

end Store

end BareMetal
