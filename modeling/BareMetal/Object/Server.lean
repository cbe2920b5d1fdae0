import BareMetal.Object.Reference

/-!
# Servers

A physical machine registered with the inventory, named after its hardware identity.
-/

namespace BareMetal

/-- The label of workload nodes that carries the identity of the server they run on. -/
def serverUuidLabel : String := "metal.dcops.microscaler.io/uuid"

/-- What is known about a server's processor. -/
structure CpuInformation where
  /-- Who made it. -/
  manufacturer : String := ""
  /-- Version or model. -/
  version : String := ""
  deriving DecidableEq

namespace CpuInformation

/-- Processor information from its JSON form. -/
def read? (json : Json) : Option CpuInformation := do
  let fields ← json.fields? ["manufacturer", "version"]
  return {
    manufacturer := ← fields.defaulted "manufacturer" "" Json.str?
    version := ← fields.defaulted "version" "" Json.str? }

/-- The JSON form of processor information. -/
def write (cpu : CpuInformation) : Json :=
  .obj (Json.textMember "manufacturer" cpu.manufacturer ++ Json.textMember "version" cpu.version)

end CpuInformation

/-- What is known about a server's system board and chassis. -/
structure SystemInformation where
  /-- Who made it. -/
  manufacturer : String := ""
  /-- Name of the product. -/
  productName : String := ""
  /-- Version of the product. -/
  version : String := ""
  /-- Serial number. -/
  serialNumber : String := ""
  /-- Number of the stock keeping unit. -/
  skuNumber : String := ""
  /-- Family of products. -/
  family : String := ""
  deriving DecidableEq

namespace SystemInformation

/-- System information from its JSON form. -/
def read? (json : Json) : Option SystemInformation := do
  let fields ← json.fields?
    ["manufacturer", "productName", "version", "serialNumber", "skuNumber", "family"]
  return {
    manufacturer := ← fields.defaulted "manufacturer" "" Json.str?
    productName := ← fields.defaulted "productName" "" Json.str?
    version := ← fields.defaulted "version" "" Json.str?
    serialNumber := ← fields.defaulted "serialNumber" "" Json.str?
    skuNumber := ← fields.defaulted "skuNumber" "" Json.str?
    family := ← fields.defaulted "family" "" Json.str? }

/-- The JSON form of system information. -/
def write (system : SystemInformation) : Json :=
  .obj <|
    Json.textMember "manufacturer" system.manufacturer ++
    Json.textMember "productName" system.productName ++
    Json.textMember "version" system.version ++
    Json.textMember "serialNumber" system.serialNumber ++
    Json.textMember "skuNumber" system.skuNumber ++
    Json.textMember "family" system.family

end SystemInformation

/-- What is wanted of a server and what it reported about itself. -/
structure ServerSpec where
  /-- An operator approved the server; others are never allocated. -/
  accepted : Bool := false
  /-- The server is kept out of new allocations. -/
  cordoned : Bool := false
  /-- Processor of the server. -/
  cpu : Option CpuInformation := none
  /-- System of the server. -/
  systemInformation : Option SystemInformation := none
  /-- Hostname of the server. -/
  hostname : Option String := none
  /-- Environment to boot in place of the usual one. -/
  environmentRef : Option Reference := none
  deriving DecidableEq

namespace ServerSpec

/-- A wanted state from its JSON form. -/
def read? (json : Json) : Option ServerSpec := do
  let fields ← json.fields?
    ["accepted", "cordoned", "cpu", "systemInformation", "hostname", "environmentRef"]
  return {
    accepted := ← fields.defaulted "accepted" false Json.bool?
    cordoned := ← fields.defaulted "cordoned" false Json.bool?
    cpu := ← fields.optional "cpu" CpuInformation.read?
    systemInformation := ← fields.optional "systemInformation" SystemInformation.read?
    hostname := ← fields.optional "hostname" Json.str?
    environmentRef := ← fields.optional "environmentRef" Reference.read? }

/-- The JSON form of a wanted state. -/
def write (spec : ServerSpec) : Json :=
  .obj <|
    [("accepted", .bool spec.accepted), ("cordoned", .bool spec.cordoned)] ++
    Json.member? "cpu" CpuInformation.write spec.cpu ++
    Json.member? "systemInformation" SystemInformation.write spec.systemInformation ++
    Json.member? "hostname" .str spec.hostname ++
    Json.member? "environmentRef" Reference.write spec.environmentRef

end ServerSpec

/-- What the inventory observed of a server. -/
structure ServerStatus where
  /-- Powered and reachable. -/
  ready : Bool := false
  /-- Claimed by a workload. -/
  inUse : Bool := false
  /-- Wiped since its last use. -/
  isClean : Bool := false
  deriving DecidableEq

namespace ServerStatus

/-- An observed state from its JSON form. -/
def read? (json : Json) : Option ServerStatus := do
  let fields ← json.fields? ["ready", "inUse", "isClean"]
  return {
    ready := ← fields.defaulted "ready" false Json.bool?
    inUse := ← fields.defaulted "inUse" false Json.bool?
    isClean := ← fields.defaulted "isClean" false Json.bool? }

/-- The JSON form of an observed state. -/
def write (status : ServerStatus) : Json :=
  .obj [("ready", .bool status.ready), ("inUse", .bool status.inUse),
    ("isClean", .bool status.isClean)]

end ServerStatus

/-- A physical machine registered with the inventory. -/
structure Server where
  /-- What the server tells about itself as an object. -/
  metadata : Metadata
  /-- What is wanted of it. -/
  spec : ServerSpec
  /-- What the inventory observed of it. -/
  status : Option ServerStatus := none

namespace Server

/-- The kind of servers. -/
def kind : Kind where
  group := "metal.dcops.microscaler.io"
  version := "v1alpha1"
  name := "Server"
  plural := "servers"
  isNamespaced := false

/-- A server from its JSON form. -/
def read? (json : Json) : Option Server := do
  let (metadata, spec, status) ← Resource.readParts? ServerSpec.read? ServerStatus.read? json
  return { metadata, spec, status }

/-- The JSON form of a server. -/
def write (server : Server) : Json :=
  Resource.writeParts kind server.metadata server.spec.write
    (server.status.map ServerStatus.write)

instance : Resource Server where
  kind := kind
  metadata := metadata
  read? := read?
  write := write

/-- The operator approved the server. -/
def isAccepted (server : Server) : Bool := server.spec.accepted

/-- The inventory reports the server as claimed. -/
def isInUse (server : Server) : Bool := server.status.any ServerStatus.inUse

/-- The inventory reports the server as wiped since its last use. -/
def isClean (server : Server) : Bool := server.status.any ServerStatus.isClean

/-- The name of the server, or the front of a name to be made up. -/
def anyName (server : Server) : String := server.metadata.anyName

end Server

end BareMetal
