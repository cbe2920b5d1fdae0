import BareMetal.Dict
import BareMetal.Json.Basic

/-!
# Schemas

A schema tells which values a field may hold, in words for people and in a JSON form for the API
server.  The members of the JSON form are sorted by name.  What a field is about goes before what
its type is about.
-/

namespace BareMetal.Manifest

/-- What becomes of a field that a value leaves out. -/
inductive Absence where
  /-- The value is refused. -/
  | refused
  /-- The field stays unset; it may also hold `null`. -/
  | unset
  /-- The field takes a default that is not worth telling. -/
  | silent
  /-- The field takes a default that is told. -/
  | default (value : Json)

/-- A field apart from what it may hold. -/
structure FieldTraits where
  /-- The name of the field. -/
  name : String
  /-- What the field is about. -/
  about : String
  /-- What becomes of the field if it is left out. -/
  absence : Absence

/-- What values may be. -/
inductive Schema where
  /-- Truth values. -/
  | truth
  /-- Texts. -/
  | text
  /-- Instants. -/
  | instant
  /-- Some words. -/
  | choice (about : String) (words : List String)
  /-- Lists. -/
  | list (items : Schema)
  /-- Texts by name. -/
  | labels
  /-- Values with named fields. -/
  | record (about : Option String) (fields : List (FieldTraits × Schema))

/-- An object with its members sorted by name, the last of several winning. -/
def sorted (members : List (String × Json)) : Json := .obj (Dict.ofList members).entries

/-- The names of the fields that may not be left out, sorted. -/
def requiredNames (fields : List (FieldTraits × Schema)) : List String :=
  let names := fields.filterMap fun field =>
    match field.1.absence with
    | .refused => some field.1.name
    | _ => none
  names.mergeSort fun left right => left ≤ right

/-- What a schema is about, if it tells. -/
def describe : Option String → List (String × Json) := Json.member? "description" .str

/-- The members for a type of values. -/
def ofType (word : String) : List (String × Json) := [("type", .str word)]

/-- The members for a field that are not those of what it holds. -/
def Absence.members : Absence → List (String × Json)
  | refused => []
  | unset => [("nullable", .bool true)]
  | silent => []
  | default value => [("default", value)]

/-- The schema of `null`. -/
def onlyNull : Json := sorted [("enum", .arr [.null]), ("nullable", .bool true)]

/-- The members for a field, given those for what it holds.  One of several words that may also
be missing is given as two alternatives. -/
def fieldMembers (traits : FieldTraits) (schema : Schema) (held : List (String × Json)) :
    List (String × Json) :=
  match schema, traits.absence with
  | .choice _ _, .unset =>
      [("anyOf", .arr [sorted held, onlyNull]), ("description", .str traits.about)]
  | _, absence => held ++ absence.members ++ [("description", .str traits.about)]

mutual

/-- The members of the JSON form of a schema. -/
def Schema.members : Schema → List (String × Json)
  | .truth => ofType "boolean"
  | .text => ofType "string"
  | .instant => ("format", .str "date-time") :: ofType "string"
  | .choice about words =>
      [("description", .str about), ("enum", .strings words)] ++ ofType "string"
  | .list items => ("items", sorted items.members) :: ofType "array"
  | .labels => ("additionalProperties", .obj (ofType "string")) :: ofType "object"
  | .record about fields =>
      let names := requiredNames fields
      describe about ++ [("properties", sorted (properties fields))] ++
        (if names.isEmpty then [] else [("required", .strings names)]) ++ ofType "object"

/-- The JSON form of each field by its name. -/
def properties : List (FieldTraits × Schema) → List (String × Json)
  | [] => []
  | (traits, schema) :: rest =>
      (traits.name, sorted (fieldMembers traits schema schema.members)) :: properties rest

end

/-! ## Fields -/

/-- A field that has to be there. -/
def required (name : String) (schema : Schema) (about : String) : FieldTraits × Schema :=
  (⟨name, about, .refused⟩, schema)

/-- A field that may be unset. -/
def optional (name : String) (schema : Schema) (about : String) : FieldTraits × Schema :=
  (⟨name, about, .unset⟩, schema)

/-- A field that is empty if it is left out, and left out if it is empty. -/
def emptiable (name : String) (schema : Schema) (about : String) : FieldTraits × Schema :=
  (⟨name, about, .silent⟩, schema)

/-- A field that takes a default if it is left out. -/
def filled (name : String) (schema : Schema) (default : Json) (about : String) :
    FieldTraits × Schema :=
  (⟨name, about, .default default⟩, schema)

/-- A truth value that is false if it is left out. -/
def flag (name about : String) : FieldTraits × Schema := filled name .truth (.bool false) about

end BareMetal.Manifest
