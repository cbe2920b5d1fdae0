import BareMetal.Json.Basic
import BareMetal.Net.Url
import BareMetal.Object.Resource

/-!
# Requests to the API server

Where the objects of a kind are found, and what is sent there.  A name has to be there and to
consist of characters that a URL may hold; otherwise there is no request.  A question mark in a name
begins the query, and a number sign ends the URL.
-/

namespace BareMetal.Api

/-- What is done with the object or the collection at a path. -/
inductive Method where
  /-- Reads it. -/
  | get
  /-- Adds an object to it. -/
  | post
  /-- Changes it. -/
  | patch
  /-- Removes it. -/
  | delete
  deriving DecidableEq

/-- The word for a method. -/
def Method.word : Method → String
  | get => "GET"
  | post => "POST"
  | patch => "PATCH"
  | delete => "DELETE"

/-- What is sent along with a request. -/
inductive Content where
  /-- A value. -/
  | value (json : Json)
  /-- A merge patch. -/
  | mergePatch (json : Json)

namespace Content

/-- The media type of a content. -/
def mediaType : Content → String
  | value _ => "application/json"
  | mergePatch _ => "application/merge-patch+json"

/-- The content itself. -/
def json : Content → Json
  | value json => json
  | mergePatch json => json

end Content

/-- A request to the API server. -/
structure Request where
  /-- What is done. -/
  method : Method
  /-- The path of the object or collection. -/
  path : String
  /-- The named values of the query. -/
  query : List (String × String) := []
  /-- What is sent along, if anything is. -/
  content : Option Content := none

/-- The request that a method and a URL make up, if the URL can be sent. -/
def Request.to? (method : Method) (url : String) (content : Option Content := none) :
    Option Request :=
  (Url.read? url.toList).map fun target =>
    { method, path := String.ofList target.path,
      query := Url.namedValues (target.query.getD []), content }

end BareMetal.Api

namespace BareMetal.Kind

/-- The path under which the objects of a kind's group and version are found. -/
def root (kind : Kind) : String :=
  (if kind.group.isEmpty then "/api/" else "/apis/") ++ kind.apiVersion

/-- The path of all objects of a kind, or of those in one namespace. -/
def collection (kind : Kind) (space : Option String) : String :=
  kind.root ++ (space.map fun space => "/namespaces/" ++ space).getD "" ++ "/" ++ kind.plural

/-- The path of one object, or of a part of it. -/
def item? (kind : Kind) (space : Option String) (name : String) (part : String := "") :
    Option String :=
  if name.isEmpty then none else some (kind.collection space ++ "/" ++ name ++ part)

/-- Reads one object. -/
def getRequest? (kind : Kind) (space : Option String) (name : String) : Option Api.Request := do
  Api.Request.to? .get (← kind.item? space name)

/-- Reads all objects, or those in one namespace, or those with a label. -/
def listRequest? (kind : Kind) (space : Option String) (selector : Option String := none) :
    Option Api.Request :=
  (Api.Request.to? .get (kind.collection space ++ "?")).map fun request =>
    { request with
      query := request.query ++ (selector.map fun text => ("labelSelector", text)).toList }

/-- Adds an object. -/
def createRequest? (kind : Kind) (object : Json) : Option Api.Request :=
  Api.Request.to? .post (kind.collection none ++ "?") (some (.value object))

/-- Changes an object, or its status. -/
def patchRequest? (kind : Kind) (space : Option String) (name : String) (patch : Json)
    (part : String := "") : Option Api.Request := do
  Api.Request.to? .patch ((← kind.item? space name part) ++ "?") (some (.mergePatch patch))

/-- Removes an object. -/
def deleteRequest? (kind : Kind) (space : Option String) (name : String) :
    Option Api.Request := do
  Api.Request.to? .delete ((← kind.item? space name) ++ "?") (some (.value (.obj [])))

end BareMetal.Kind
