import BareMetal.Object.Condition
import BareMetal.Object.Reference

/-!
# Server bindings

The lasting record that a machine holds a server.  A binding has the name of its server, so that
a server never has two; whoever creates the binding first holds the server.
-/

namespace BareMetal

/-- Who holds a server. -/
structure ServerBindingSpec where
  /-- The machine that holds it. -/
  metalMachineRef : Reference
  /-- The class it was picked from, if it was. -/
  serverClassRef : Option Reference := none
  /-- Addresses of the server's node. -/
  addresses : List String := []
  /-- Hostname of the server's node. -/
  hostname : Option String := none
  deriving DecidableEq

namespace ServerBindingSpec

/-- A binding's content from its JSON form. -/
def read? (json : Json) : Option ServerBindingSpec := do
  let fields ← json.fields? ["metalMachineRef", "serverClassRef", "addresses", "hostname"]
  return {
    metalMachineRef := ← fields.required "metalMachineRef" Reference.read?
    serverClassRef := ← fields.optional "serverClassRef" Reference.read?
    addresses := ← fields.defaulted "addresses" [] (Json.list? Json.str?)
    hostname := ← fields.optional "hostname" Json.str? }

/-- The JSON form of a binding's content. -/
def write (spec : ServerBindingSpec) : Json :=
  .obj <|
    [("metalMachineRef", spec.metalMachineRef.write)] ++
    Json.member? "serverClassRef" Reference.write spec.serverClassRef ++
    Json.listMember "addresses" .str spec.addresses ++
    Json.member? "hostname" .str spec.hostname

end ServerBindingSpec

/-- What was observed of a binding. -/
structure ServerBindingStatus where
  /-- The server exists. -/
  ready : Bool := false
  /-- Conditions that are passed on to the machine. -/
  conditions : List Condition := []
  deriving DecidableEq

namespace ServerBindingStatus

/-- A status from its JSON form. -/
def read? (json : Json) : Option ServerBindingStatus := do
  let fields ← json.fields? ["ready", "conditions"]
  return {
    ready := ← fields.defaulted "ready" false Json.bool?
    conditions := ← fields.defaulted "conditions" [] (Json.list? Condition.read?) }

/-- The JSON form of a status. -/
def write (status : ServerBindingStatus) : Json :=
  .obj <|
    [("ready", .bool status.ready)] ++
    Json.listMember "conditions" Condition.write status.conditions

end ServerBindingStatus

/-- The record that a machine holds a server. -/
structure ServerBinding where
  /-- What the binding tells about itself as an object. -/
  metadata : Metadata
  /-- Who holds the server. -/
  spec : ServerBindingSpec
  /-- What was observed. -/
  status : Option ServerBindingStatus := none

namespace ServerBinding

/-- The kind of server bindings. -/
def kind : Kind where
  group := "infrastructure.cluster.x-k8s.io"
  version := "v1alpha3"
  name := "ServerBinding"
  plural := "serverbindings"
  isNamespaced := false

/-- A binding from its JSON form. -/
def read? (json : Json) : Option ServerBinding := do
  let (metadata, spec, status) ←
    Resource.readParts? ServerBindingSpec.read? ServerBindingStatus.read? json
  return { metadata, spec, status }

/-- The JSON form of a binding. -/
def write (binding : ServerBinding) : Json :=
  Resource.writeParts kind binding.metadata binding.spec.write
    (binding.status.map ServerBindingStatus.write)

instance : Resource ServerBinding where
  kind := kind
  metadata := metadata
  read? := read?
  write := write

/-- The binding was found ready. -/
def isReady (binding : ServerBinding) : Bool := binding.status.any ServerBindingStatus.ready

/-- The key of the machine that holds the server. -/
def holder (binding : ServerBinding) : ObjectKey := binding.spec.metalMachineRef.key

/-- Whether the machine of a key holds the server. -/
def isHeldBy (binding : ServerBinding) (machine : ObjectKey) : Bool :=
  binding.spec.metalMachineRef.pointsTo machine

/-- The name of the binding, or the front of a name to be made up. -/
def anyName (binding : ServerBinding) : String := binding.metadata.anyName

/-- The conditions to pass on to the machine. -/
def conditions (binding : ServerBinding) : List Condition :=
  (binding.status.map ServerBindingStatus.conditions).getD []

end ServerBinding

end BareMetal
