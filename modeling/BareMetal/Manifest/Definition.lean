import BareMetal.Manifest.Schema
import BareMetal.Object.Resource

/-!
# Definitions of kinds

What an API server has to know to keep objects of a kind: how the kind and its objects are called,
what is shown of an object in a table, and the schemas of what is wanted and what is observed.
-/

namespace BareMetal.Manifest

/-- A column of the table of all objects. -/
structure Column where
  /-- The heading. -/
  title : String
  /-- The type of what is shown. -/
  type : String
  /-- Where in an object it is found. -/
  path : String

/-- What an API server has to know about a kind. -/
structure Definition where
  /-- The kind. -/
  kind : Kind
  /-- The columns besides the name. -/
  columns : List Column
  /-- What can be wanted of an object. -/
  spec : Schema
  /-- What can be observed of an object, if anything can. -/
  status : Option Schema

/-- The JSON form of a column. -/
def Column.write (column : Column) : Json :=
  sorted [("jsonPath", .str column.path), ("name", .str column.title), ("type", .str column.type)]

namespace Definition

/-- The schema of whole objects. -/
def schema (definition : Definition) : Json :=
  let kind := definition.kind.name
  let about := "Auto-generated derived type for " ++ kind ++ "Spec via `CustomResource`"
  let status := definition.status.map fun schema =>
    sorted (schema.members ++ [("nullable", .bool true)])
  sorted [
    ("description", .str about),
    ("properties", sorted ([("spec", sorted definition.spec.members)] ++
      Json.member? "status" id status)),
    ("required", .strings ["spec"]),
    ("title", .str kind),
    ("type", .str "object")]

/-- What can be written apart from the rest of an object. -/
def subresources (definition : Definition) : Json :=
  .obj (if definition.status.isSome then [("status", .obj [])] else [])

/-- How the kind and its objects are called. -/
def names (definition : Definition) : Json :=
  sorted [
    ("categories", .arr []),
    ("kind", .str definition.kind.name),
    ("plural", .str definition.kind.plural),
    ("shortNames", .arr []),
    ("singular", .str definition.kind.name.toLower)]

/-- The JSON form of a definition: an object of its own, named after the kind. -/
def write (definition : Definition) : Json :=
  let kind := definition.kind
  sorted [
    ("apiVersion", .str "apiextensions.k8s.io/v1"),
    ("kind", .str "CustomResourceDefinition"),
    ("metadata", sorted [("name", .str (kind.plural ++ "." ++ kind.group))]),
    ("spec", sorted [
      ("group", .str kind.group),
      ("names", definition.names),
      ("scope", .str (if kind.isNamespaced then "Namespaced" else "Cluster")),
      ("versions", .arr [sorted [
        ("additionalPrinterColumns", .arr (definition.columns.map Column.write)),
        ("name", .str kind.version),
        ("schema", sorted [("openAPIV3Schema", definition.schema)]),
        ("served", .bool true),
        ("storage", .bool true),
        ("subresources", definition.subresources)]])])]

end Definition

end BareMetal.Manifest
