import BareMetal.Object.Metadata

/-!
# Kinds of objects

Every object belongs to a kind, which has a place in the Kubernetes API.  An object's JSON form
names the kind and holds metadata, the wanted state (`spec`) and, for most kinds, the observed
state (`status`).
-/

namespace BareMetal

/-- A kind of objects in the Kubernetes API. -/
structure Kind where
  /-- The API group, empty for the core group. -/
  group : String
  /-- The version of the group. -/
  version : String
  /-- The name of the kind. -/
  name : String
  /-- The name of the collection of all objects of the kind. -/
  plural : String
  /-- Whether each object belongs to a namespace. -/
  isNamespaced : Bool
  deriving DecidableEq

/-- Group and version of a kind; the core group is not written. -/
def Kind.apiVersion (kind : Kind) : String :=
  if kind.group.isEmpty then kind.version else kind.group ++ "/" ++ kind.version

/-- A type of objects of one kind. -/
class Resource (α : Type) where
  /-- The kind of the objects. -/
  kind : Kind
  /-- What an object tells about itself. -/
  metadata : α → Metadata
  /-- An object from its JSON form. -/
  read? : Json → Option α
  /-- The JSON form of an object. -/
  write : α → Json

namespace Resource

variable {α : Type} [Resource α]

/-- The key of an object. -/
def key (object : α) : ObjectKey := (metadata object).key

/-- The name of an object, or the front of a name to be made up. -/
def anyName (object : α) : String := (metadata object).anyName

/-- The parts of an object with a status.  The object form may leave the status out or hold
`null` there; the array form holds all three parts. -/
def readParts? {σ τ : Type} (readSpec : Json → Option σ) (readStatus : Json → Option τ)
    (json : Json) : Option (Metadata × σ × Option τ) := do
  let fields ← json.fields? ["metadata", "spec", "status"]
  match json with
  | .arr [_, _, _] => pure ()
  | .arr _ => none
  | _ => pure ()
  return (← fields.required "metadata" Metadata.read?, ← fields.required "spec" readSpec,
    ← fields.optional "status" readStatus)

/-- The parts of an object without a status. -/
def readTwoParts? {σ : Type} (readSpec : Json → Option σ) (json : Json) :
    Option (Metadata × σ) := do
  let fields ← json.fields? ["metadata", "spec"]
  return (← fields.required "metadata" Metadata.read?, ← fields.required "spec" readSpec)

/-- The JSON form of an object of a kind, with a status if there is one. -/
def writeParts (kind : Kind) (metadata : Metadata) (spec : Json) (status : Option Json) : Json :=
  .obj <|
    [("apiVersion", .str kind.apiVersion), ("kind", .str kind.name),
      ("metadata", metadata.write), ("spec", spec)] ++
    Json.member? "status" id status

end Resource

end BareMetal
