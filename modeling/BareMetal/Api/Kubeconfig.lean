import BareMetal.Net.Certificate
import BareMetal.Net.Url
import BareMetal.Yaml.Record

/-!
# Kubeconfigs

A kubeconfig names clusters, users and contexts; a context joins a cluster with a user, and one
context is the current one.  It leads to the server of the current context's cluster, as the
context's user; a user who is not named is one of whom nothing is told.
-/

namespace BareMetal.Api

/-- How the server of a cluster is reached. -/
structure Connection where
  /-- The URL of the server. -/
  server : Option String
  /-- The URL of a proxy in front of it. -/
  proxy : Option String
  /-- A file with the certificates that the server is checked with. -/
  authorityFile : Option String
  /-- These certificates in base 64, in place of the file. -/
  authorityData : Option String
  /-- The name that the server's certificate has to be made out to. -/
  serverName : Option String

/-- A service that knows who a user is. -/
structure Provider where
  /-- What the service is called. -/
  name : String
  /-- What is told to it. -/
  settings : List (String × String)

/-- Who makes the requests. -/
structure User where
  /-- The service that knows the user. -/
  provider : Option Provider := none
  /-- A name to log in with. -/
  username : Option String := none
  /-- The password that belongs to the name. -/
  password : Option String := none
  /-- A token. -/
  token : Option String := none
  /-- A file that holds a token. -/
  tokenFile : Option String := none
  /-- A certificate in base 64. -/
  certificate : Option String := none
  /-- The key of the certificate in base 64. -/
  key : Option String := none
  /-- Whether a command has to be run to learn more. -/
  needsCommand : Bool := false
  /-- The user in whose name the requests are made. -/
  actsAs : Option String := none
  /-- The groups in whose name the requests are made. -/
  groups : Option (List String) := none

/-- What a context joins. -/
structure Context where
  /-- The name of the cluster. -/
  cluster : String
  /-- The name of the user, if there is one. -/
  user : Option String

/-- A kubeconfig: named parts, each of which may be empty. -/
structure Kubeconfig where
  /-- What the document is. -/
  kind : Option String := none
  /-- The version of the document's form. -/
  apiVersion : Option String := none
  /-- The clusters by name. -/
  clusters : List (String × Option Connection) := []
  /-- The users by name. -/
  users : List (String × Option User) := []
  /-- The contexts by name. -/
  contexts : List (String × Option Context) := []
  /-- The name of the current context. -/
  current : Option String := none

namespace Kubeconfig

open Yaml (Value)

/-! ## Reading -/

/-- Accepts fields that hold texts, or nothing. -/
def onlyTexts (fields : Value.Fields) : (names : List String) → Option Unit
  | [] => some ()
  | name :: rest => do
      let _ ← fields.optional name Value.str?
      onlyTexts fields rest

/-- Accepts an extension: a name and a value of any kind without tags, in which keys are texts. -/
def readExtension? (value : Value) : Option Unit := do
  let fields ← value.fields? ["name", "extension"]
  let _ ← fields.required "name" Value.str?
  fields.required "extension" fun value => if value.isPlain then some () else none

/-- Accepts the field that holds extensions. -/
def readExtensions? (fields : Value.Fields) : Option Unit := do
  let _ ← fields.optional "extensions" (Value.list? readExtension?)

/-- Accepts preferences. -/
def readPreferences? (value : Value) : Option Unit := do
  let fields ← value.fields? ["colors", "extensions"]
  let _ ← fields.optional "colors" Value.bool?
  readExtensions? fields

/-- A list of named parts. -/
def namedParts {α : Type} (part : String) (read : Value → Option α) (fields : Value.Fields)
    (name : String) : Option (List (String × Option α)) :=
  fields.defaulted name [] <| Value.list? fun value => do
    let fields ← value.fields? ["name", part]
    return (← fields.required "name" Value.str?, ← fields.optional part read)

/-- How a server is reached. -/
def readConnection? (value : Value) : Option Connection := do
  let fields ← value.fields?
    ["server", "insecure-skip-tls-verify", "certificate-authority", "certificate-authority-data",
      "proxy-url", "disable-compression", "tls-server-name", "extensions"]
  let _ ← fields.optional "insecure-skip-tls-verify" Value.bool?
  let _ ← fields.optional "disable-compression" Value.bool?
  readExtensions? fields
  return {
    server := ← fields.optional "server" Value.str?
    proxy := ← fields.optional "proxy-url" Value.str?
    authorityFile := ← fields.optional "certificate-authority" Value.str?
    authorityData := ← fields.optional "certificate-authority-data" Value.str?
    serverName := ← fields.optional "tls-server-name" Value.str? }

/-- A service that knows who a user is. -/
def readProvider? (value : Value) : Option Provider := do
  let fields ← value.fields? ["name", "config"]
  return {
    name := ← fields.required "name" Value.str?
    settings := ← fields.defaulted "config" [] Value.texts? }

/-- The name of one of the ways in which a command may ask its user. -/
def readMode? (value : Value) : Option Unit :=
  if value.alternative?.any ["Never", "IfAvailable", "Always"].contains then some () else none

/-- Accepts what is told about a command. -/
def readCommand? (value : Value) : Option Unit := do
  let fields ← value.fields?
    ["apiVersion", "command", "args", "env", "interactiveMode", "provideClusterInfo"]
  onlyTexts fields ["apiVersion", "command"]
  let _ ← fields.optional "args" (Value.list? Value.str?)
  let _ ← fields.optional "env" (Value.list? Value.texts?)
  let _ ← fields.optional "interactiveMode" readMode?
  let _ ← fields.defaulted "provideClusterInfo" false Value.bool?

/-- The fields of a user that hold texts. -/
def userTexts : List String :=
  ["username", "password", "token", "tokenFile", "client-certificate", "client-certificate-data",
    "client-key", "client-key-data", "as"]

/-- What is told about a user. -/
def readUser? (value : Value) : Option User := do
  let fields ← value.fields? (userTexts ++ ["as-groups", "auth-provider", "exec"])
  onlyTexts fields userTexts
  return {
    provider := ← fields.optional "auth-provider" readProvider?
    username := ← fields.optional "username" Value.str?
    password := ← fields.optional "password" Value.str?
    token := ← fields.optional "token" Value.str?
    tokenFile := ← fields.optional "tokenFile" Value.str?
    certificate := ← fields.optional "client-certificate-data" Value.str?
    key := ← fields.optional "client-key-data" Value.str?
    needsCommand := (← fields.optional "exec" readCommand?).isSome
    actsAs := ← fields.optional "as" Value.str?
    groups := ← fields.optional "as-groups" (Value.list? Value.str?) }

/-- A context. -/
def readContext? (value : Value) : Option Context := do
  let fields ← value.fields? ["cluster", "user", "namespace", "extensions"]
  onlyTexts fields ["namespace"]
  readExtensions? fields
  return {
    cluster := ← fields.required "cluster" Value.str?
    user := ← fields.optional "user" Value.str? }

/-- A kubeconfig from a document; an empty document is an empty kubeconfig. -/
def read? (value : Value) : Option Kubeconfig := do
  let fields ← value.fields?
    ["kind", "apiVersion", "preferences", "clusters", "users", "contexts", "current-context",
      "extensions"]
  let _ ← fields.optional "preferences" readPreferences?
  readExtensions? fields
  return {
    kind := ← fields.optional "kind" Value.str?
    apiVersion := ← fields.optional "apiVersion" Value.str?
    clusters := ← namedParts "cluster" readConnection? fields "clusters"
    users := ← namedParts "user" readUser? fields "users"
    contexts := ← namedParts "context" readContext? fields "contexts"
    current := ← fields.optional "current-context" Value.str? }

/-- Whether two texts, if both are there, are the same. -/
def agree : Option String → Option String → Bool
  | some first, some second => first == second
  | _, _ => true

/-- Two kubeconfigs in one, unless they differ in kind or version.  Of parts with the same name the
first counts. -/
def merge? (first second : Kubeconfig) : Option Kubeconfig :=
  if agree first.kind second.kind && agree first.apiVersion second.apiVersion then
    some {
      kind := first.kind.orElse fun _ => second.kind
      apiVersion := first.apiVersion.orElse fun _ => second.apiVersion
      clusters := first.clusters ++ second.clusters
      users := first.users ++ second.users
      contexts := first.contexts ++ second.contexts
      current := first.current.orElse fun _ => second.current }
  else none

/-- The kubeconfig that a text spells, its documents merged. -/
def parse? (text : String) : Option Kubeconfig := do
  let documents ← Yaml.Value.ofText? text
  (← documents.mapM read?).foldlM merge? {}

/-- The kubeconfig that the text of a file spells.  A mark of the order of octets at the front of a
file is no part of its text. -/
def parseFile? (text : String) : Option Kubeconfig :=
  match text.toList with
  | c :: rest => parse? (if c = Yaml.byteOrderMark then String.ofList rest else text)
  | [] => parse? text

/-! ## Following -/

/-- What a kubeconfig tells about the way to a server. -/
structure Access where
  /-- The URL of the server. -/
  server : String
  /-- The URL of the proxy in front of it. -/
  proxy : Option String
  /-- The certificates that the server is checked with; those of the system if none are told. -/
  authorities : List (List UInt8)
  /-- The name that the server's certificate has to be made out to, if not the server's own. -/
  serverName : Option String
  /-- Who makes the requests. -/
  user : User

/-- The certificates of a cluster.  Files are out of reach. -/
def authorities? (connection : Connection) : Option (List (List UInt8)) :=
  match connection.authorityData with
  | some text => do
      let octets ← Text.decodeBase64 text.toList
      return Certificate.certificatesOf (← Text.PemBlock.allIn? octets)
  | none => if connection.authorityFile.isNone then some [] else none

/-- The proxy of a cluster; an empty text stands for none. -/
def proxy? (connection : Connection) : Option (Option String) :=
  match connection.proxy.filter fun proxy => !proxy.isEmpty with
  | some proxy => if Url.isUrl proxy.toList then some (some proxy) else none
  | none => some none

/-- The way that a kubeconfig tells, if it leads to a server. -/
def access? (config : Kubeconfig) : Option Access := do
  let context ← (← config.contexts.lookup (← config.current))
  let connection ← (← config.clusters.lookup context.cluster)
  let server ← connection.server
  guard (Url.isUrl server.toList)
  return {
    server
    proxy := ← proxy? connection
    authorities := ← authorities? connection
    serverName := connection.serverName
    user := (context.user.bind fun name => (config.users.lookup name).join).getD {} }

end Kubeconfig

end BareMetal.Api
