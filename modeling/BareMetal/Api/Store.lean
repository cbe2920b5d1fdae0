import BareMetal.Api.Exchange
import BareMetal.Api.Patch
import BareMetal.Store.Call

/-!
# The store behind the API server

Each call to the store is one request.  Status goes to a path of its own.  A binding that is gone
already counts as deleted.
-/

namespace BareMetal.Api

/-- The path of an object's status behind that of the object. -/
def statusPart : String := "/status"

/-- Reads one object. -/
def getObject {α : Type} [Resource α] (space : Option String) (name what : String) :
    Exchange (Except StoreError α) :=
  .about what (.send ((Resource.kind α).getRequest? space name) Resource.read?)

/-- Reads one object of a kind without namespaces. -/
def getByName {α : Type} [Resource α] (name : String) : Exchange (Except StoreError α) :=
  getObject none name ((Resource.kind α).name ++ " " ++ name)

/-- Reads one object of a kind with namespaces. -/
def getByKey {α : Type} [Resource α] (key : ObjectKey) : Exchange (Except StoreError α) :=
  getObject (some key.space) key.name ((Resource.kind α).name ++ " " ++ key.display)

/-- Reads all objects of a kind, or those in one namespace. -/
def listObjects {α : Type} [Resource α] (space : Option String := none) :
    Exchange (Except StoreError (List α)) :=
  .about "resource"
    (.send ((Resource.kind α).listRequest? space) (readItems? Resource.read?))

/-- Adds an object of a kind without namespaces. -/
def createObject {α : Type} [Resource α] (object : α) : Exchange (Except StoreError α) :=
  .about ((Resource.kind α).name ++ " " ++ (Resource.metadata object).name.getD "")
    (.send ((Resource.kind α).createRequest? (Resource.write object)) Resource.read?)

/-- Changes an object. -/
def patchObject {α : Type} [Resource α] (space : Option String) (name what : String)
    (patch : Json) (part : String := "") : Exchange (Except StoreError α) :=
  .about what (.send ((Resource.kind α).patchRequest? space name patch part) Resource.read?)

/-- Goes on without the value that an exchange gave. -/
def discarding {α : Type} (exchange : Exchange (Except StoreError α)) :
    Exchange (Except StoreError Unit) := do
  return (← exchange).map fun _ => ()

/-- Changes an object of a kind without namespaces. -/
def patchByName (α : Type) [Resource α] (name : String) (patch : Json) (part : String := "") :
    Exchange (Except StoreError Unit) :=
  discarding <|
    patchObject (α := α) none name ((Resource.kind α).name ++ " " ++ name) patch part

/-- Changes a metal machine. -/
def patchMachine (key : ObjectKey) (patch : Json) (part : String := "") :
    Exchange (Except StoreError MetalMachine) :=
  patchObject (some key.space) key.name ("MetalMachine " ++ key.display) patch part

/-- Deletes a binding. -/
def deleteBinding (name : String) : Exchange (Except StoreError Unit) := do
  let reply ← Exchange.about ("ServerBinding " ++ name)
    (.send (ServerBinding.kind.deleteRequest? none name) (readRemoved? ServerBinding.read?))
  match reply with
  | .error (.notFound _) => return .ok ()
  | reply => return reply

/-- What a call to the store gives, where metal machines are listed in one namespace or in
all. -/
def perform (space : Option String) : (call : StoreCall) → Exchange call.Reply
  | .getServer name => getByName name
  | .listServers => listObjects
  | .getServerClass name => getByName name
  | .listServerClasses => listObjects
  | .createServerClass serverClass => createObject serverClass
  | .updateServerClassSpec name spec => patchByName ServerClass name (classSpecPatch spec)
  | .updateServerClassStatus name status =>
      patchByName ServerClass name (classStatusPatch status) statusPart
  | .getServerBinding name => getByName name
  | .listServerBindings => listObjects
  | .createServerBinding binding => createObject binding
  | .deleteServerBinding name => deleteBinding name
  | .updateServerBindingStatus name status =>
      patchByName ServerBinding name (bindingStatusPatch status) statusPart
  | .getMetalMachine key => getByKey key
  | .listMetalMachines => listObjects space
  | .updateMetalMachine machine => patchMachine machine.key (machinePatch machine)
  | .updateMetalMachineStatus key status =>
      discarding (patchMachine key (machineStatusPatch status) statusPart)
  | .getMachine key => getByKey key
  | .getCluster key => getByKey key

end BareMetal.Api
