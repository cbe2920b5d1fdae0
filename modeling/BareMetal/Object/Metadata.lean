import BareMetal.Json.Record
import BareMetal.Object.Key
import BareMetal.Time.Timestamp

/-!
# Object metadata

The part that every object of the Kubernetes API has: its name and namespace, labels, owners,
finalizers and the server's bookkeeping.  Each field may be unset; lists and dictionaries that are
set but empty stay so.
-/

namespace BareMetal

/-- An instant read from a text. -/
def Timestamp.read? (json : Json) : Option Timestamp := json.str?.bind Timestamp.parse?

/-- Labels or annotations: texts by name. -/
abbrev Labels := Dict String String

/-- The object that another object belongs to. -/
structure OwnerReference where
  /-- API group and version of the owner. -/
  apiVersion : String := ""
  /-- Kind of the owner. -/
  kind : String := ""
  /-- Name of the owner. -/
  name : String := ""
  /-- Unique identifier of the owner. -/
  uid : String := ""
  /-- Whether the owner is the one that manages the object. -/
  controller : Option Bool := none
  /-- Whether the owner has to wait for the object before it can be deleted. -/
  blockOwnerDeletion : Option Bool := none
  deriving DecidableEq

namespace OwnerReference

/-- An owner from its JSON form.  The texts default to empty. -/
def read? (json : Json) : Option OwnerReference := do
  let fields ← json.members?
  return {
    apiVersion := (← fields.optional "apiVersion" Json.str?).getD ""
    kind := (← fields.optional "kind" Json.str?).getD ""
    name := (← fields.optional "name" Json.str?).getD ""
    uid := (← fields.optional "uid" Json.str?).getD ""
    controller := ← fields.optional "controller" Json.bool?
    blockOwnerDeletion := ← fields.optional "blockOwnerDeletion" Json.bool? }

/-- The JSON form of an owner. -/
def write (owner : OwnerReference) : Json :=
  .obj <|
    [("apiVersion", .str owner.apiVersion)] ++
    Json.member? "blockOwnerDeletion" .bool owner.blockOwnerDeletion ++
    Json.member? "controller" .bool owner.controller ++
    [("kind", .str owner.kind), ("name", .str owner.name), ("uid", .str owner.uid)]

end OwnerReference

/-- Which fields of an object a writer takes care of. -/
structure FieldOwnership where
  /-- Version in which the fields are given. -/
  apiVersion : Option String := none
  /-- Form in which the fields are given. -/
  fieldsType : Option String := none
  /-- The fields themselves, in any form. -/
  fieldsV1 : Option Json := none
  /-- The writer. -/
  manager : Option String := none
  /-- What the writer did. -/
  operation : Option String := none
  /-- Part of the object that was written. -/
  subresource : Option String := none
  /-- When the writer wrote. -/
  time : Option Timestamp := none

namespace FieldOwnership

/-- An ownership from its JSON form. -/
def read? (json : Json) : Option FieldOwnership := do
  let fields ← json.members?
  return {
    apiVersion := ← fields.optional "apiVersion" Json.str?
    fieldsType := ← fields.optional "fieldsType" Json.str?
    fieldsV1 := ← fields.optional "fieldsV1" Json.any?
    manager := ← fields.optional "manager" Json.str?
    operation := ← fields.optional "operation" Json.str?
    subresource := ← fields.optional "subresource" Json.str?
    time := ← fields.optional "time" Timestamp.read? }

/-- The JSON form of an ownership. -/
def write (ownership : FieldOwnership) : Json :=
  .obj <|
    Json.member? "apiVersion" .str ownership.apiVersion ++
    Json.member? "fieldsType" .str ownership.fieldsType ++
    Json.member? "fieldsV1" id ownership.fieldsV1 ++
    Json.member? "manager" .str ownership.manager ++
    Json.member? "operation" .str ownership.operation ++
    Json.member? "subresource" .str ownership.subresource ++
    Json.member? "time" (fun time => .str time.writeWhole) ownership.time

end FieldOwnership

/-- What an object tells about itself. -/
structure Metadata where
  /-- Free notes. -/
  annotations : Option Labels := none
  /-- When the object was created. -/
  creationTimestamp : Option Timestamp := none
  /-- How long the object may take to go, in seconds. -/
  deletionGracePeriodSeconds : Option Int := none
  /-- When the object was marked for deletion. -/
  deletionTimestamp : Option Timestamp := none
  /-- Who has to agree before a marked object goes. -/
  finalizers : Option (List String) := none
  /-- The front of a name to be made up by the server. -/
  generateName : Option String := none
  /-- How often the wanted state was changed. -/
  generation : Option Int := none
  /-- Labels to select the object by. -/
  labels : Option Labels := none
  /-- Who takes care of which fields. -/
  managedFields : Option (List FieldOwnership) := none
  /-- The object's name. -/
  name : Option String := none
  /-- The object's namespace. -/
  space : Option String := none
  /-- The objects it belongs to. -/
  ownerReferences : Option (List OwnerReference) := none
  /-- The version of this state of the object. -/
  resourceVersion : Option String := none
  /-- A path to the object. -/
  selfLink : Option String := none
  /-- An identifier that no other object ever has. -/
  uid : Option String := none

namespace Metadata

/-- Metadata from its JSON form, which is an object. -/
def read? (json : Json) : Option Metadata := do
  let fields ← json.members?
  return {
    annotations := ← fields.optional "annotations" (Json.dict? Json.str?)
    creationTimestamp := ← fields.optional "creationTimestamp" Timestamp.read?
    deletionGracePeriodSeconds := ← fields.optional "deletionGracePeriodSeconds" Json.int64?
    deletionTimestamp := ← fields.optional "deletionTimestamp" Timestamp.read?
    finalizers := ← fields.optional "finalizers" (Json.list? Json.str?)
    generateName := ← fields.optional "generateName" Json.str?
    generation := ← fields.optional "generation" Json.int64?
    labels := ← fields.optional "labels" (Json.dict? Json.str?)
    managedFields := ← fields.optional "managedFields" (Json.list? FieldOwnership.read?)
    name := ← fields.optional "name" Json.str?
    space := ← fields.optional "namespace" Json.str?
    ownerReferences := ← fields.optional "ownerReferences" (Json.list? OwnerReference.read?)
    resourceVersion := ← fields.optional "resourceVersion" Json.str?
    selfLink := ← fields.optional "selfLink" Json.str?
    uid := ← fields.optional "uid" Json.str? }

/-- The JSON form of metadata: the fields that are set. -/
def write (metadata : Metadata) : Json :=
  .obj <|
    Json.member? "annotations" (Json.ofDict .str) metadata.annotations ++
    Json.member? "creationTimestamp" (fun time => .str time.writeWhole)
      metadata.creationTimestamp ++
    Json.member? "deletionGracePeriodSeconds" .int metadata.deletionGracePeriodSeconds ++
    Json.member? "deletionTimestamp" (fun time => .str time.writeWhole)
      metadata.deletionTimestamp ++
    Json.member? "finalizers" Json.strings metadata.finalizers ++
    Json.member? "generateName" .str metadata.generateName ++
    Json.member? "generation" .int metadata.generation ++
    Json.member? "labels" (Json.ofDict .str) metadata.labels ++
    Json.member? "managedFields" (fun fields => .arr (fields.map FieldOwnership.write))
      metadata.managedFields ++
    Json.member? "name" .str metadata.name ++
    Json.member? "namespace" .str metadata.space ++
    Json.member? "ownerReferences" (fun owners => .arr (owners.map OwnerReference.write))
      metadata.ownerReferences ++
    Json.member? "resourceVersion" .str metadata.resourceVersion ++
    Json.member? "selfLink" .str metadata.selfLink ++
    Json.member? "uid" .str metadata.uid

/-- The name, or else the front of the name to be made up, or else nothing. -/
def anyName (metadata : Metadata) : String :=
  (metadata.name.orElse fun _ => metadata.generateName).getD ""

/-- The key made of namespace and name, each empty when it is not set. -/
def key (metadata : Metadata) : ObjectKey :=
  ⟨metadata.space.getD "", metadata.name.getD ""⟩

end Metadata

end BareMetal
