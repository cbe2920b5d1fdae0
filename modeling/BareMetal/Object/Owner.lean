import BareMetal.Object.Reference

/-!
# Owners of metal machines

The Cluster API machine that a metal machine was made for, and the cluster of that machine.  Both
are only read, and only in the few fields that matter for allocation.
-/

namespace BareMetal

/-- The API group of Cluster API. -/
def clusterApiGroup : String := "cluster.x-k8s.io"

/-- The label that names the cluster of an object. -/
def clusterNameLabel : String := "cluster.x-k8s.io/cluster-name"

/-- Where a machine's bootstrap data is found. -/
structure Bootstrap where
  /-- The secret with the rendered data, once there is one. -/
  dataSecretName : Option String := none
  deriving DecidableEq

namespace Bootstrap

/-- A bootstrap reference from its JSON form. -/
def read? (json : Json) : Option Bootstrap := do
  let fields ← json.fields? ["dataSecretName"]
  return { dataSecretName := ← fields.optional "dataSecretName" Json.str? }

/-- The JSON form of a bootstrap reference. -/
def write (bootstrap : Bootstrap) : Json :=
  .obj (Json.member? "dataSecretName" .str bootstrap.dataSecretName)

end Bootstrap

/-- The fields of a Cluster API machine that matter for allocation. -/
structure MachineSpec where
  /-- The cluster of the machine. -/
  clusterName : String := ""
  /-- Where its bootstrap data is. -/
  bootstrap : Bootstrap := {}
  deriving DecidableEq

namespace MachineSpec

/-- The fields from their JSON form. -/
def read? (json : Json) : Option MachineSpec := do
  let fields ← json.fields? ["clusterName", "bootstrap"]
  return {
    clusterName := ← fields.defaulted "clusterName" "" Json.str?
    bootstrap := ← fields.defaulted "bootstrap" {} Bootstrap.read? }

/-- The JSON form of the fields. -/
def write (spec : MachineSpec) : Json :=
  .obj [("clusterName", .str spec.clusterName), ("bootstrap", spec.bootstrap.write)]

end MachineSpec

/-- A Cluster API machine. -/
structure Machine where
  /-- What the machine tells about itself as an object. -/
  metadata : Metadata
  /-- The fields that matter. -/
  spec : MachineSpec

namespace Machine

/-- The kind of Cluster API machines. -/
def kind : Kind where
  group := clusterApiGroup
  version := "v1beta1"
  name := "Machine"
  plural := "machines"
  isNamespaced := true

/-- A machine from its JSON form. -/
def read? (json : Json) : Option Machine := do
  let (metadata, spec) ← Resource.readTwoParts? MachineSpec.read? json
  return { metadata, spec }

/-- The JSON form of a machine. -/
def write (machine : Machine) : Json :=
  Resource.writeParts kind machine.metadata machine.spec.write none

instance : Resource Machine where
  kind := kind
  metadata := metadata
  read? := read?
  write := write

/-- The key of a machine. -/
def key (machine : Machine) : ObjectKey := machine.metadata.key

/-- The cluster of a machine: the one its label names, or else the one it names itself. -/
def clusterName? (machine : Machine) : Option String :=
  match machine.metadata.labels.bind fun labels => labels.get? clusterNameLabel with
  | some name => some name
  | none => if machine.spec.clusterName.isEmpty then none else some machine.spec.clusterName

/-- The secret with the machine's bootstrap data, once there is one. -/
def bootstrapSecret? (machine : Machine) : Option String := machine.spec.bootstrap.dataSecretName

end Machine

/-- What is wanted of a cluster. -/
structure ClusterSpec where
  /-- Work on the cluster's objects is suspended. -/
  paused : Bool := false
  deriving DecidableEq

namespace ClusterSpec

/-- A wanted state from its JSON form. -/
def read? (json : Json) : Option ClusterSpec := do
  let fields ← json.fields? ["paused"]
  return { paused := ← fields.defaulted "paused" false Json.bool? }

/-- The JSON form of a wanted state. -/
def write (spec : ClusterSpec) : Json := .obj [("paused", .bool spec.paused)]

end ClusterSpec

/-- What was observed of a cluster. -/
structure ClusterStatus where
  /-- The cluster's infrastructure is there. -/
  infrastructureReady : Bool := false
  deriving DecidableEq

namespace ClusterStatus

/-- An observed state from its JSON form. -/
def read? (json : Json) : Option ClusterStatus := do
  let fields ← json.fields? ["infrastructureReady"]
  return { infrastructureReady := ← fields.defaulted "infrastructureReady" false Json.bool? }

/-- The JSON form of an observed state. -/
def write (status : ClusterStatus) : Json :=
  .obj [("infrastructureReady", .bool status.infrastructureReady)]

end ClusterStatus

/-- A cluster. -/
structure Cluster where
  /-- What the cluster tells about itself as an object. -/
  metadata : Metadata
  /-- What is wanted of it. -/
  spec : ClusterSpec
  /-- What was observed of it. -/
  status : Option ClusterStatus := none

namespace Cluster

/-- The kind of clusters. -/
def kind : Kind where
  group := clusterApiGroup
  version := "v1beta1"
  name := "Cluster"
  plural := "clusters"
  isNamespaced := true

/-- A cluster from its JSON form. -/
def read? (json : Json) : Option Cluster := do
  let (metadata, spec, status) ← Resource.readParts? ClusterSpec.read? ClusterStatus.read? json
  return { metadata, spec, status }

/-- The JSON form of a cluster. -/
def write (cluster : Cluster) : Json :=
  Resource.writeParts kind cluster.metadata cluster.spec.write
    (cluster.status.map ClusterStatus.write)

instance : Resource Cluster where
  kind := kind
  metadata := metadata
  read? := read?
  write := write

/-- The key of a cluster. -/
def key (cluster : Cluster) : ObjectKey := cluster.metadata.key

/-- The cluster's infrastructure is there. -/
def isInfrastructureReady (cluster : Cluster) : Bool :=
  cluster.status.any ClusterStatus.infrastructureReady

end Cluster

end BareMetal
