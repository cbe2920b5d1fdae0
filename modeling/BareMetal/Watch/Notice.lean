import BareMetal.Api.Answer
import BareMetal.Watch.Task

/-!
# Notices of watch connections

A watch connection sends one notice after the other.  A notice about an object has to carry the
version from which the watch can go on; otherwise, and when the server says that it does not know
the version any more, the collection has to be listed again.
-/

namespace BareMetal

/-- What a watch connection sends. -/
inductive Notice where
  /-- An object was created or changed. -/
  | changed (object : Watched)
  /-- An object was deleted. -/
  | deleted (object : Watched)
  /-- Nothing happened up to some version. -/
  | bookmark
  /-- The watch cannot go on from where it is. -/
  | expired
  /-- Something that cannot be read, or an error after which the watch goes on. -/
  | fault

namespace Notice

/-- The notice about an object that can be watched on only if the object tells its version. -/
def about (notice : Watched → Notice) (object : Watched) : Notice :=
  if (object.metadata.resourceVersion.getD "").isEmpty then expired else notice object

/-- The notice for an error. -/
def ofError (error : Json) : Notice :=
  match Api.refusal? error with
  | some (.refused 410 _ _) => expired
  | _ => fault

/-- What a bookmark tells about itself: a version, and perhaps annotations. -/
def readBookmarkMetadata? (json : Json) : Option Unit := do
  let fields ← json.fields? ["resourceVersion", "annotations"]
  let _ ← fields.required "resourceVersion" Json.str?
  let _ ← fields.defaulted "annotations" Dict.empty (Json.dict? Json.str?)

/-- A bookmark, which tells of what kind it is and up to which version nothing happened. -/
def readBookmark? (json : Json) : Option Unit := do
  let fields ← json.members?
  let _ ← fields.required "apiVersion" Json.str?
  let _ ← fields.required "kind" Json.str?
  fields.required "metadata" readBookmarkMetadata?

/-- The notice with a word for what happened and the object, the bookmark or the error. -/
def ofWord? (collection : Collection) (content : Json) : (word : String) → Option Notice
  | "ADDED" => (collection.read? content).map (about changed)
  | "MODIFIED" => (collection.read? content).map (about changed)
  | "DELETED" => (collection.read? content).map (about deleted)
  | "BOOKMARK" => (readBookmark? content).map fun _ => bookmark
  | "ERROR" => some (ofError content)
  | _ => none

/-- A notice from its JSON form: the word, and what belongs to it. -/
def read (collection : Collection) (json : Json) : Notice :=
  let notice? := do
    let fields ← json.fields? ["type", "object"]
    let word ← fields.required "type" Json.alternative?
    ofWord? collection (← fields.lookup "object") word
  notice?.getD fault

end Notice

end BareMetal
