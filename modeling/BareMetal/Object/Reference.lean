import BareMetal.Object.Resource

/-!
# References between objects

A reference names another object.  Only namespace and name decide what it points to; a missing
namespace counts as the empty one.
-/

namespace BareMetal

/-- A reference to another object. -/
structure Reference where
  /-- API group and version of the object. -/
  apiVersion : Option String := none
  /-- Kind of the object. -/
  kind : Option String := none
  /-- Name of the object. -/
  name : String
  /-- Namespace of the object. -/
  space : Option String := none
  /-- Unique identifier of the object when the reference was taken. -/
  uid : Option String := none
  deriving DecidableEq

namespace Reference

/-- A reference by name alone. -/
def ofName (name : String) : Reference := { name }

/-- A full reference to an object. -/
def toObject {α : Type} [Resource α] (object : α) : Reference where
  apiVersion := some (Resource.kind α).apiVersion
  kind := some (Resource.kind α).name
  name := Resource.anyName object
  space := (Resource.metadata object).space
  uid := (Resource.metadata object).uid

/-- The key of the object that a reference points to. -/
def key (reference : Reference) : ObjectKey := ⟨reference.space.getD "", reference.name⟩

/-- Whether a reference points to the object of a key. -/
def pointsTo (reference : Reference) (key : ObjectKey) : Bool := reference.key == key

/-- A reference from its JSON form. -/
def read? (json : Json) : Option Reference := do
  let fields ← json.fields? ["apiVersion", "kind", "name", "namespace", "uid"]
  return {
    apiVersion := ← fields.optional "apiVersion" Json.str?
    kind := ← fields.optional "kind" Json.str?
    name := ← fields.required "name" Json.str?
    space := ← fields.optional "namespace" Json.str?
    uid := ← fields.optional "uid" Json.str? }

/-- The JSON form of a reference. -/
def write (reference : Reference) : Json :=
  .obj <|
    Json.member? "apiVersion" .str reference.apiVersion ++
    Json.member? "kind" .str reference.kind ++
    [("name", .str reference.name)] ++
    Json.member? "namespace" .str reference.space ++
    Json.member? "uid" .str reference.uid

end Reference

end BareMetal
