import BareMetal.Object.Condition
import BareMetal.Object.Reference

/-!
# Metal machines

A machine asks for a server, either for one by name or for any of a class.  Its finalizer keeps
it until the server it holds is released.
-/

namespace BareMetal

/-- What a machine asks for. -/
structure MetalMachineSpec where
  /-- The identifier of the allocated server for the workload cluster. -/
  providerId : Option String := none
  /-- The server of this machine. -/
  serverRef : Option Reference := none
  /-- The class to pick a server from when none is named. -/
  serverClassRef : Option Reference := none
  deriving DecidableEq

namespace MetalMachineSpec

/-- A request from its JSON form. -/
def read? (json : Json) : Option MetalMachineSpec := do
  let fields ← json.fields? ["providerID", "serverRef", "serverClassRef"]
  return {
    providerId := ← fields.optional "providerID" Json.str?
    serverRef := ← fields.optional "serverRef" Reference.read?
    serverClassRef := ← fields.optional "serverClassRef" Reference.read? }

/-- The JSON form of a request. -/
def write (spec : MetalMachineSpec) : Json :=
  .obj <|
    Json.member? "providerID" .str spec.providerId ++
    Json.member? "serverRef" Reference.write spec.serverRef ++
    Json.member? "serverClassRef" Reference.write spec.serverClassRef

end MetalMachineSpec

/-- What an address of a machine is. -/
inductive AddressType where
  /-- A hostname. -/
  | hostname
  /-- An address inside the cluster's network. -/
  | internalIp
  /-- An address outside the cluster's network. -/
  | externalIp
  deriving DecidableEq

namespace AddressType

/-- The word for a type of address. -/
def word : AddressType → String
  | hostname => "Hostname"
  | internalIp => "InternalIP"
  | externalIp => "ExternalIP"

/-- The type of address that a word stands for. -/
def ofWord? : String → Option AddressType
  | "Hostname" => some hostname
  | "InternalIP" => some internalIp
  | "ExternalIP" => some externalIp
  | _ => none

end AddressType

/-- An address of a machine. -/
structure MachineAddress where
  /-- What the address is. -/
  type : AddressType
  /-- The address itself. -/
  address : String
  deriving DecidableEq

namespace MachineAddress

/-- An address from its JSON form. -/
def read? (json : Json) : Option MachineAddress := do
  let fields ← json.fields? ["type", "address"]
  return {
    type := ← fields.required "type" fun json => json.alternative?.bind AddressType.ofWord?
    address := ← fields.required "address" Json.str? }

/-- The JSON form of an address. -/
def write (address : MachineAddress) : Json :=
  .obj [("type", .str address.type.word), ("address", .str address.address)]

end MachineAddress

/-- What was observed of a machine. -/
structure MetalMachineStatus where
  /-- The machine can be used by the workload. -/
  ready : Bool := false
  /-- Addresses of the machine's server. -/
  addresses : List MachineAddress := []
  /-- Conditions, those of the binding included. -/
  conditions : List Condition := []
  /-- A word for what can only be mended by changing the request. -/
  failureReason : Option String := none
  /-- Details of the failure. -/
  failureMessage : Option String := none
  deriving DecidableEq

namespace MetalMachineStatus

/-- A status from its JSON form. -/
def read? (json : Json) : Option MetalMachineStatus := do
  let fields ← json.fields?
    ["ready", "addresses", "conditions", "failureReason", "failureMessage"]
  return {
    ready := ← fields.defaulted "ready" false Json.bool?
    addresses := ← fields.defaulted "addresses" [] (Json.list? MachineAddress.read?)
    conditions := ← fields.defaulted "conditions" [] (Json.list? Condition.read?)
    failureReason := ← fields.optional "failureReason" Json.str?
    failureMessage := ← fields.optional "failureMessage" Json.str? }

/-- The JSON form of a status. -/
def write (status : MetalMachineStatus) : Json :=
  .obj <|
    [("ready", .bool status.ready)] ++
    Json.listMember "addresses" MachineAddress.write status.addresses ++
    Json.listMember "conditions" Condition.write status.conditions ++
    Json.member? "failureReason" .str status.failureReason ++
    Json.member? "failureMessage" .str status.failureMessage

end MetalMachineStatus

/-- A request for a server. -/
structure MetalMachine where
  /-- What the machine tells about itself as an object. -/
  metadata : Metadata
  /-- What it asks for. -/
  spec : MetalMachineSpec
  /-- What was observed. -/
  status : Option MetalMachineStatus := none

namespace MetalMachine

/-- The kind of metal machines. -/
def kind : Kind where
  group := "infrastructure.cluster.x-k8s.io"
  version := "v1alpha3"
  name := "MetalMachine"
  plural := "metalmachines"
  isNamespaced := true

/-- A machine from its JSON form. -/
def read? (json : Json) : Option MetalMachine := do
  let (metadata, spec, status) ←
    Resource.readParts? MetalMachineSpec.read? MetalMachineStatus.read? json
  return { metadata, spec, status }

/-- The JSON form of a machine. -/
def write (machine : MetalMachine) : Json :=
  Resource.writeParts kind machine.metadata machine.spec.write
    (machine.status.map MetalMachineStatus.write)

instance : Resource MetalMachine where
  kind := kind
  metadata := metadata
  read? := read?
  write := write

/-- The finalizer that keeps a machine until its server is released. -/
def finalizer : String := "metalmachine.infrastructure.cluster.x-k8s.io"

/-- The failure reason of a machine that asks for no server at all. -/
def invalidConfiguration : String := "InvalidConfiguration"

/-- The key of a machine. -/
def key (machine : MetalMachine) : ObjectKey := machine.metadata.key

/-- The identifier of a server for the workload cluster. -/
def providerIdFor (server : String) : String := "metal://" ++ server

/-- The machine is marked for deletion. -/
def isDeleting (machine : MetalMachine) : Bool := machine.metadata.deletionTimestamp.isSome

/-- The finalizer is present. -/
def hasFinalizer (machine : MetalMachine) : Bool :=
  machine.metadata.finalizers.any fun names => names.contains finalizer

/-- The machine with the finalizer, put behind its other finalizers if it was missing. -/
def addFinalizer (machine : MetalMachine) : MetalMachine :=
  if machine.hasFinalizer then machine
  else { machine with
    metadata.finalizers := some (machine.metadata.finalizers.getD [] ++ [finalizer]) }

/-- The machine without the finalizer. -/
def removeFinalizer (machine : MetalMachine) : MetalMachine :=
  { machine with
    metadata.finalizers := machine.metadata.finalizers.map fun names =>
      names.filter (· != finalizer) }

/-- The status, or that of a machine of which nothing was observed yet. -/
def currentStatus (machine : MetalMachine) : MetalMachineStatus := machine.status.getD {}

/-- The machine with its status changed; a missing status is made up first. -/
def updateStatus (machine : MetalMachine)
    (change : MetalMachineStatus → MetalMachineStatus) : MetalMachine :=
  { machine with status := some (change machine.currentStatus) }

/-- The machine asks for the server of a name. -/
def namesServer (machine : MetalMachine) (server : String) : Bool :=
  machine.spec.serverRef.any fun reference => reference.name == server

end MetalMachine

end BareMetal
