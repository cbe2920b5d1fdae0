import BareMetal.Manifest.Definition
import BareMetal.Object.MetalMachine
import BareMetal.Object.Owner
import BareMetal.Object.ServerBinding
import BareMetal.Object.ServerClass
import BareMetal.Yaml.Printer

/-!
# The kinds of the allocator

The definitions of the kinds that the allocator works on.  Servers, server classes, bindings and
metal machines are its own kinds; owner machines and clusters belong to somebody else, and only the
fields that the allocator reads are told.
-/

namespace BareMetal.Manifest

/-! ## Parts -/

/-- References to other objects. -/
def referenceSchema : Schema := .record (some "Kubernetes-style reference to another object.") [
  optional "apiVersion" .text
    "API version of the referenced object (e.g., \"infrastructure.cluster.x-k8s.io/v1alpha3\")",
  optional "kind" .text "Kind of the referenced object (e.g., \"MetalMachine\", \"ServerClass\")",
  required "name" .text "Name of the referenced object",
  optional "namespace" .text "Namespace of the referenced object (empty for cluster-scoped kinds)",
  optional "uid" .text "UID of the referenced object at the time the reference was taken"]

/-- Processors. -/
def cpuSchema : Schema := .record (some "Processor information") [
  emptiable "manufacturer" .text "CPU manufacturer",
  emptiable "version" .text "CPU version / model string"]

/-- Systems. -/
def systemSchema : Schema := .record (some "System (SMBIOS) information") [
  emptiable "manufacturer" .text "System manufacturer",
  emptiable "productName" .text "Product name",
  emptiable "version" .text "Product version",
  emptiable "serialNumber" .text "Serial number",
  emptiable "skuNumber" .text "SKU number",
  emptiable "family" .text "Product family"]

/-- Conditions. -/
def conditionSchema : Schema := .record (some "A single observed condition") [
  required "type" .text "Condition type (e.g., \"Ready\", \"ProviderSet\")",
  required "status" (.choice "Condition status values" ["True", "False", "Unknown"])
    "Condition status",
  optional "severity" (.choice "How severe a `False` condition is" ["Error", "Warning", "Info"])
    "Severity, only meaningful when status is False",
  optional "reason" .text "Machine-readable reason for the last transition",
  optional "message" .text "Human-readable details",
  optional "lastTransitionTime" .instant "When the status last changed"]

/-- Requirements on labels. -/
def labelRequirementSchema : Schema := .record (some "A set-based label requirement") [
  required "key" .text "Label key",
  required "operator" .text "One of In, NotIn, Exists, DoesNotExist",
  emptiable "values" (.list .text) "Values for In / NotIn"]

/-- Selectors. -/
def selectorSchema : Schema := .record (some "Kubernetes label selector") [
  emptiable "matchLabels" .labels "Exact label matches",
  emptiable "matchExpressions" (.list labelRequirementSchema) "Set-based requirements"]

/-- Qualifiers. -/
def qualifiersSchema : Schema :=
  .record (some "Qualifiers a server must pass to belong to a class.") [
    emptiable "cpu" (.list cpuSchema) "CPU criteria; empty fields are wildcards",
    emptiable "systemInformation" (.list systemSchema)
      "System information criteria; empty fields are wildcards",
    emptiable "labelSelectors" (.list .labels)
      "Label maps; a server qualifies when any single key/value pair matches"]

/-- Addresses of machines. -/
def addressSchema : Schema :=
  .record (some "Address of the machine as reported to Cluster API") [
    required "type"
      (.choice "Machine address kinds used by this provider"
        ["Hostname", "InternalIP", "ExternalIP"])
      "Address type (InternalIP, Hostname, ...)",
    required "address" .text "The address"]

/-! ## Kinds -/

/-- Servers. -/
def server : Definition where
  kind := Server.kind
  columns := [
    ⟨"Accepted", "boolean", ".spec.accepted"⟩,
    ⟨"In Use", "boolean", ".status.inUse"⟩]
  spec := .record none [
    flag "accepted" "Operator approval; servers that are not accepted are never allocated",
    flag "cordoned" "Cordoned servers are excluded from new allocations",
    optional "cpu" cpuSchema "Processor information reported by the server",
    optional "systemInformation" systemSchema
      "System (SMBIOS) information reported by the server",
    optional "hostname" .text "Hostname reported by the server",
    optional "environmentRef" referenceSchema "Boot environment override"]
  status := some <| .record
    (some "Observed server state, maintained by the inventory side.") [
      flag "ready" "Server is powered and reachable",
      flag "inUse" "Server is currently claimed by a workload",
      flag "isClean" "Server has been wiped since its last use"]

/-- Server classes. -/
def serverClass : Definition where
  kind := ServerClass.kind
  columns := [
    ⟨"Available", "string", ".status.serversAvailable"⟩,
    ⟨"In Use", "string", ".status.serversInUse"⟩]
  spec := .record none [
    optional "selector" selectorSchema
      "Label selector applied to server labels before the qualifiers",
    filled "qualifiers" qualifiersSchema (.obj []) "Hardware and label qualifiers",
    optional "environmentRef" referenceSchema
      "Boot environment for servers allocated through this class"]
  status := some <| .record none [
    filled "serversAvailable" (.list .text) (.arr []) "Qualifying servers that are free",
    filled "serversInUse" (.list .text) (.arr []) "Qualifying servers that are claimed"]

/-- Bindings. -/
def serverBinding : Definition where
  kind := ServerBinding.kind
  columns := [
    ⟨"Machine", "string", ".spec.metalMachineRef.name"⟩,
    ⟨"Ready", "boolean", ".status.ready"⟩]
  spec := .record none [
    required "metalMachineRef" referenceSchema "MetalMachine holding the claim",
    optional "serverClassRef" referenceSchema
      "ServerClass the server was picked from (absent for direct assignment)",
    emptiable "addresses" (.list .text) "Node addresses reported for the bound server",
    optional "hostname" .text "Hostname reported for the bound server"]
  status := some <| .record none [
    flag "ready" "The bound server exists",
    emptiable "conditions" (.list conditionSchema)
      "Conditions propagated to the owning MetalMachine"]

/-- Metal machines. -/
def metalMachine : Definition where
  kind := MetalMachine.kind
  columns := [
    ⟨"Server", "string", ".spec.serverRef.name"⟩,
    ⟨"Ready", "boolean", ".status.ready"⟩]
  spec := .record none [
    optional "providerID" .text "Provider ID, `metal://<server uuid>`, once allocated",
    optional "serverRef" referenceSchema "Server bound to this machine",
    optional "serverClassRef" referenceSchema
      "Class to allocate a server from when no server is set"]
  status := some <| .record none [
    flag "ready" "Infrastructure is ready for the workload",
    emptiable "addresses" (.list addressSchema) "Addresses copied from the bound server",
    emptiable "conditions" (.list conditionSchema)
      "Conditions, including those propagated from the binding",
    optional "failureReason" .text "Terminal failure reason, set for configuration errors",
    optional "failureMessage" .text "Terminal failure message"]

/-- Owner machines. -/
def machine : Definition where
  kind := Machine.kind
  columns := []
  spec := .record none [
    filled "clusterName" .text (.str "") "Cluster this machine belongs to",
    filled "bootstrap"
      (.record (some "Machine bootstrap reference") [
        optional "dataSecretName" .text
          "Secret holding the rendered bootstrap data, set once it is available"])
      (.obj []) "Bootstrap configuration"]
  status := none

/-- Clusters. -/
def cluster : Definition where
  kind := Cluster.kind
  columns := []
  spec := .record none [
    flag "paused" "Reconciliation of the cluster's objects is suspended"]
  status := some <| .record (some "Cluster status fields read by the allocator") [
    flag "infrastructureReady" "Cluster infrastructure is provisioned"]

/-- The allocator's own kinds. -/
def ownKinds : List Definition := [server, serverClass, serverBinding, metalMachine]

/-- All kinds that the allocator works on. -/
def allKinds : List Definition := ownKinds ++ [machine, cluster]

/-- The definition of the kind of a name. -/
def definition? (name : String) : Option Definition :=
  allKinds.find? fun definition => definition.kind.name == name

/-- The manifests of the allocator's own kinds, one YAML document after the other. -/
def manifests : String :=
  String.join (ownKinds.map fun definition => Yaml.document definition.write)

end BareMetal.Manifest
