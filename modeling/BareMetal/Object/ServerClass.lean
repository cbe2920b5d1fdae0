import BareMetal.Object.Selector
import BareMetal.Object.Server

/-!
# Server classes

A named filter over servers.  Its status holds the names of the servers that pass the filter now,
those that are free apart from those that are in use.
-/

namespace BareMetal

/-- What a server has to be like to belong to a class.  Of each list that has entries one entry
has to fit. -/
structure Qualifiers where
  /-- Processors; an empty field fits any. -/
  cpu : List CpuInformation := []
  /-- Systems; an empty field fits any. -/
  systemInformation : List SystemInformation := []
  /-- Labels; one of all pairs has to be present. -/
  labelSelectors : List Labels := []
  deriving DecidableEq

namespace Qualifiers

/-- Whether no list has an entry. -/
def isEmpty (qualifiers : Qualifiers) : Bool :=
  qualifiers.cpu.isEmpty && qualifiers.systemInformation.isEmpty &&
    qualifiers.labelSelectors.isEmpty

/-- Qualifiers from their JSON form. -/
def read? (json : Json) : Option Qualifiers := do
  let fields ← json.fields? ["cpu", "systemInformation", "labelSelectors"]
  return {
    cpu := ← fields.defaulted "cpu" [] (Json.list? CpuInformation.read?)
    systemInformation := ← fields.defaulted "systemInformation" []
      (Json.list? SystemInformation.read?)
    labelSelectors := ← fields.defaulted "labelSelectors" []
      (Json.list? (Json.dict? Json.str?)) }

/-- The JSON form of qualifiers. -/
def write (qualifiers : Qualifiers) : Json :=
  .obj <|
    Json.listMember "cpu" CpuInformation.write qualifiers.cpu ++
    Json.listMember "systemInformation" SystemInformation.write qualifiers.systemInformation ++
    Json.listMember "labelSelectors" (Json.ofDict .str) qualifiers.labelSelectors

end Qualifiers

/-- The filter of a class. -/
structure ServerClassSpec where
  /-- Selects servers by label before the qualifiers are looked at. -/
  selector : Option Selector := none
  /-- What the servers have to be like. -/
  qualifiers : Qualifiers := {}
  /-- Environment that servers allocated from the class boot. -/
  environmentRef : Option Reference := none
  deriving DecidableEq

namespace ServerClassSpec

/-- A filter from its JSON form. -/
def read? (json : Json) : Option ServerClassSpec := do
  let fields ← json.fields? ["selector", "qualifiers", "environmentRef"]
  return {
    selector := ← fields.optional "selector" Selector.read?
    qualifiers := ← fields.defaulted "qualifiers" {} Qualifiers.read?
    environmentRef := ← fields.optional "environmentRef" Reference.read? }

/-- The JSON form of a filter. -/
def write (spec : ServerClassSpec) : Json :=
  .obj <|
    Json.member? "selector" Selector.write spec.selector ++
    [("qualifiers", spec.qualifiers.write)] ++
    Json.member? "environmentRef" Reference.write spec.environmentRef

end ServerClassSpec

/-- The servers that pass a class's filter. -/
structure ServerClassStatus where
  /-- Names of the free servers. -/
  serversAvailable : List String := []
  /-- Names of the servers in use. -/
  serversInUse : List String := []
  deriving DecidableEq

namespace ServerClassStatus

/-- A status from its JSON form. -/
def read? (json : Json) : Option ServerClassStatus := do
  let fields ← json.fields? ["serversAvailable", "serversInUse"]
  return {
    serversAvailable := ← fields.defaulted "serversAvailable" [] (Json.list? Json.str?)
    serversInUse := ← fields.defaulted "serversInUse" [] (Json.list? Json.str?) }

/-- The JSON form of a status. -/
def write (status : ServerClassStatus) : Json :=
  .obj [("serversAvailable", .strings status.serversAvailable),
    ("serversInUse", .strings status.serversInUse)]

end ServerClassStatus

/-- A named filter over servers. -/
structure ServerClass where
  /-- What the class tells about itself as an object. -/
  metadata : Metadata
  /-- The filter. -/
  spec : ServerClassSpec
  /-- The servers that pass it. -/
  status : Option ServerClassStatus := none

namespace ServerClass

/-- The kind of server classes. -/
def kind : Kind where
  group := "metal.dcops.microscaler.io"
  version := "v1alpha1"
  name := "ServerClass"
  plural := "serverclasses"
  isNamespaced := false

/-- A class from its JSON form. -/
def read? (json : Json) : Option ServerClass := do
  let (metadata, spec, status) ←
    Resource.readParts? ServerClassSpec.read? ServerClassStatus.read? json
  return { metadata, spec, status }

/-- The JSON form of a class. -/
def write (serverClass : ServerClass) : Json :=
  Resource.writeParts kind serverClass.metadata serverClass.spec.write
    (serverClass.status.map ServerClassStatus.write)

instance : Resource ServerClass where
  kind := kind
  metadata := metadata
  read? := read?
  write := write

/-- The name of the class that every accepted server belongs to. -/
def anyClass : String := "any"

/-- The names of the class's free servers. -/
def availableServers (serverClass : ServerClass) : List String :=
  (serverClass.status.map ServerClassStatus.serversAvailable).getD []

end ServerClass

end BareMetal
