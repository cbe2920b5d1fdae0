import BareMetal.Api.Client
import BareMetal.Api.Exchange
import BareMetal.Dict
import BareMetal.Object.Server
import BareMetal.Text.Base64
import BareMetal.Text.Utf8

/-!
# Workload clusters behind their API servers

The nodes of a workload cluster are reached with the kubeconfig that the management cluster keeps
in a secret.  A connection is kept until the nodes of its cluster cannot be listed; then the secret
is read again at the next attempt.
-/

namespace BareMetal.Api

/-- The kind of secrets. -/
def secretKind : Kind where
  group := ""
  version := "v1"
  name := "Secret"
  plural := "secrets"
  isNamespaced := true

/-- The kind of nodes. -/
def nodeKind : Kind where
  group := ""
  version := "v1"
  name := "Node"
  plural := "nodes"
  isNamespaced := false

/-- A text that may be left out but has to be the given one. -/
def onlyText (expected : String) (json : Json) : Option Unit :=
  if json.str? = some expected then some () else none

/-- Accepts the fields of an object unless they name another kind. -/
def ofKind (kind : Kind) (json : Json) : Option Json.Fields := do
  let fields ← json.members?
  fields.defaulted "apiVersion" () (onlyText kind.apiVersion)
  fields.defaulted "kind" () (onlyText kind.name)
  return fields

/-- Octets in base 64; `null` stands for none. -/
def readOctets? : Json → Option (List UInt8)
  | .null => some []
  | .str text => Text.decodeBase64 text.toList
  | _ => none

/-- The data of a secret. -/
def readSecret? (json : Json) : Option (Dict String (List UInt8)) := do
  let fields ← ofKind secretKind json
  let _ ← fields.optional "metadata" Metadata.read?
  let _ ← fields.optional "immutable" Json.bool?
  let _ ← fields.optional "stringData" (Json.dict? Json.str?)
  let _ ← fields.optional "type" Json.str?
  return (← fields.optional "data" (Json.dict? readOctets?)).getD Dict.empty

/-- The JSON form of a secret with one entry. -/
def writeSecret (name key : String) (octets : List UInt8) : Json :=
  .obj [("apiVersion", .str secretKind.apiVersion), ("kind", .str secretKind.name),
    ("metadata", .obj [("name", .str name)]),
    ("data", .obj [(key, .str (String.ofList (Text.encodeBase64 octets)))])]

/-- A node of a workload cluster. -/
structure Node where
  /-- What the node tells about itself as an object. -/
  metadata : Metadata
  /-- The node's provider ID. -/
  providerId : Option String

/-- A node from its JSON form. -/
def Node.read? (json : Json) : Option Node := do
  let fields ← ofKind nodeKind json
  let spec ← fields.optional "spec" fun json => do
    (← json.members?).optional "providerID" Json.str?
  return {
    metadata := (← fields.optional "metadata" Metadata.read?).getD {}
    providerId := spec.join }

/-- The API server that a request goes to. -/
inductive Destination where
  /-- That of the management cluster. -/
  | management
  /-- The one at an address. -/
  | workload (server : String)

/-- A request with the server it goes to. -/
structure Dispatch where
  /-- Where the request goes. -/
  destination : Destination
  /-- The request. -/
  request : Request

/-- A computation that sends requests to several API servers. -/
abbrev Correspondence := Program Dispatch fun _ => Option Answer

/-- Sends the requests of an exchange to one server. -/
def sendTo {α : Type} (destination : Destination) : Exchange α → Correspondence α
  | .done value => .done value
  | .ask request next => .ask ⟨destination, request⟩ fun answer => sendTo destination (next answer)

/-- The servers of the workload clusters that are connected. -/
abbrev Connections := Dict ObjectKey String

/-- Where the data of secrets lead, told from a secret's name and its data. -/
abbrev Lead := (secret : String) → Dict String (List UInt8) → Except StoreError String

/-- The server that a secret's data lead to, where `secret` is the secret's name. -/
def serverOf (now : Timestamp) : Lead := fun secret data =>
  match data.get? "value" with
  | none => .error (.kubeconfig ("secret " ++ secret ++ " has no 'value' key"))
  | some octets =>
      match Text.decodeUtf8 octets with
      | .error fault =>
          .error (.kubeconfig ("secret " ++ secret ++ " is not UTF-8: " ++ fault.message))
      | .ok text =>
          match connectTo now (Kubeconfig.parse? (String.ofList text)) with
          | .ok server => .ok server
          | .error .noServer =>
              .error (.kubeconfig ("secret " ++ secret ++ ": " ++ ClientFault.noServer.message))
          | .error fault => .error (.api fault.message)

/-- The server of a cluster: the connected one, or else the one that the cluster's secret leads
to, which is connected from then on. -/
def connect (lead : Lead) (connections : Connections) (cluster : ObjectKey) :
    Correspondence (Except StoreError String × Connections) := do
  match connections.get? cluster with
  | some server => return (.ok server, connections)
  | none =>
      let secret := cluster.name ++ "-kubeconfig"
      let reply ← sendTo .management <|
        Exchange.about ("Secret " ++ cluster.space ++ "/" ++ secret)
          (.send (secretKind.getRequest? (some cluster.space) secret) readSecret?)
      match reply.bind (lead secret) with
      | .ok server => return (.ok server, connections.insert cluster server)
      | .error error => return (.error error, connections)

/-- The patch that gives a node a provider ID. -/
def nodePatch (providerId : String) : Json :=
  .obj [("spec", .obj [("providerID", .str providerId)])]

/-- Gives a node a provider ID, unless it has it already. -/
def stampNode (node : Node) (providerId : String) : Exchange (Except StoreError Unit) := do
  if node.providerId = some providerId then return .ok ()
  let name := node.metadata.anyName
  let reply ← Exchange.about ("Node " ++ name)
    (.send (nodeKind.patchRequest? none name (nodePatch providerId)) Node.read?)
  return reply.map fun _ => ()

/-- Gives the only node of several a provider ID. -/
def stampOnly (selector providerId : String) :
    (nodes : List Node) → Exchange (Except StoreError Unit)
  | [node] => stampNode node providerId
  | [] => return .error (.invalidRequest ("no matching nodes found for " ++ selector))
  | _ => return .error (.invalidRequest ("multiple nodes found for " ++ selector))

/-- Sets the provider ID of the node of a cluster that runs on a server; the node has to be the
only one with the server's label. -/
def setProviderIdBy (lead : Lead) (connections : Connections) (cluster : ObjectKey)
    (uuid providerId : String) : Correspondence (Except StoreError Unit × Connections) := do
  match ← connect lead connections cluster with
  | (.error error, connections) => return (.error error, connections)
  | (.ok server, connections) =>
      let selector := serverUuidLabel ++ "=" ++ uuid
      let listing : Exchange (Except Failure (List Node)) :=
        .send (nodeKind.listRequest? none (some selector)) (readItems? Node.read?)
      match ← sendTo (.workload server) listing with
      | .error _ =>
          return (.error (.api "the nodes cannot be listed"), connections.erase cluster)
      | .ok nodes =>
          let reply ← sendTo (.workload server) (stampOnly selector providerId nodes)
          return (reply, connections)

/-- Sets the provider ID of a node of a cluster whose secret leads to the server that its
kubeconfig names. -/
def setProviderId (now : Timestamp) : Connections → ObjectKey → (uuid providerId : String) →
    Correspondence (Except StoreError Unit × Connections) :=
  setProviderIdBy (serverOf now)

end BareMetal.Api
