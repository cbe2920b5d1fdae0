import BareMetal.Pass.Allocation
import BareMetal.Pass.Commit
import BareMetal.Pass.Release

/-!
# Passes over metal machines

A machine that is marked for deletion is released.  Any other machine has to pass the gates of its
owner and its cluster; then it gets a server, and once the binding is ready the machine is
reported ready and the workload node is stamped.  What a pass changed of the machine is written
back however the pass ends.
-/

namespace BareMetal

/-- What the gates in front of allocation say. -/
inductive Gate where
  /-- The machine belongs to a cluster and may get a server. -/
  | passed (cluster : ObjectKey)
  /-- Somebody else has to act first. -/
  | closed (reason : WaitReason)

/-- Whether an owner is a Cluster API machine. -/
def OwnerReference.isMachine (owner : OwnerReference) : Bool :=
  owner.kind == "Machine" &&
    String.ofList (owner.apiVersion.toList.takeWhile (· != '/')) == clusterApiGroup

/-- The key of the machine's owner machine. -/
def MetalMachine.ownerKey? (machine : MetalMachine) : Option ObjectKey :=
  ((machine.metadata.ownerReferences.getD []).find? OwnerReference.isMachine).map fun owner =>
    ⟨machine.metadata.space.getD "", owner.name⟩

/-- The gates of a cluster and of an owner machine that are there. -/
def clusterGate (clusterKey : ObjectKey) (cluster : Cluster) (owner : Machine) : Gate :=
  if cluster.spec.paused then .closed .clusterPaused
  else if !cluster.isInfrastructureReady then .closed .clusterNotReady
  else if owner.bootstrapSecret?.isNone then .closed .bootstrapDataMissing
  else .passed clusterKey

/-- The gates behind that of the owner machine.  The cluster is looked for in the namespace of the
metal machine, whose key is `key`. -/
def ownerGates (key ownerKey : ObjectKey) (owner : Machine) : Attempt Gate := do
  match owner.clusterName? with
  | none => throw (.invalidConfig ("Machine " ++ ownerKey.display ++ " does not name its cluster"))
  | some name =>
      let clusterKey : ObjectKey := ⟨key.space, name⟩
      match ← Pass.call (.getCluster clusterKey) with
      | .ok cluster => return clusterGate clusterKey cluster owner
      | .error (.notFound _) => return .closed .clusterNotReady
      | .error error => throw (.store error)

/-- All gates in front of the allocation of the machine of a key. -/
def gates (key : ObjectKey) (machine : MetalMachine) : Attempt Gate := do
  match machine.ownerKey? with
  | none => return .closed .ownerMachineMissing
  | some ownerKey =>
      match ← Pass.call (.getMachine ownerKey) with
      | .ok owner => ownerGates key ownerKey owner
      | .error (.notFound _) => return .closed .ownerMachineMissing
      | .error error => throw (.store error)

/-- The addresses that a binding reports for its server. -/
def ServerBinding.machineAddresses (binding : ServerBinding) : List MachineAddress :=
  binding.spec.addresses.map (⟨.internalIp, ·⟩) ++
    (binding.spec.hostname.map (⟨.hostname, ·⟩)).toList

/-- The machine's status once its binding is ready. -/
def MetalMachineStatus.becomeReady (status : MetalMachineStatus) (binding : ServerBinding) :
    MetalMachineStatus :=
  { status with
    ready := true
    addresses := binding.machineAddresses
    conditions := binding.conditions.foldl Condition.set status.conditions }

/-- The machine's status with one condition reported. -/
def MetalMachineStatus.setCondition (status : MetalMachineStatus) (condition : Condition) :
    MetalMachineStatus :=
  { status with conditions := Condition.set status.conditions condition }

/-- Stamps the workload node of a machine's server and reports how that went. -/
def stampNode (machine : MetalMachine) (cluster : ObjectKey) (server : String) :
    Pass (Except PassError Outcome × MetalMachine) := do
  match ← Pass.stampNode cluster server (MetalMachine.providerIdFor server) with
  | .ok _ =>
      let condition := Condition.holding Condition.providerSetType (← Pass.now)
      return (.ok .done, machine.updateStatus (·.setCondition condition))
  | .error error =>
      let condition := Condition.failing Condition.providerSetType
        Condition.providerUpdateFailed .warning error.message (← Pass.now)
      return (.ok (.requeue .providerIdNotSet), machine.updateStatus (·.setCondition condition))

/-- Reports a machine ready that holds a server, once the binding is ready. -/
def reportReady (machine : MetalMachine) (cluster : ObjectKey) (server : String) :
    Pass (Except PassError Outcome × MetalMachine) := do
  let machine :=
    { machine with spec.providerId := some (MetalMachine.providerIdFor server) }
  match ← Pass.call (.getServerBinding server) with
  | .ok binding =>
      if binding.isReady then
        stampNode (machine.updateStatus (·.becomeReady binding)) cluster server
      else return (.ok (.requeue .bindingNotReady), machine)
  | .error (.notFound _) => return (.ok (.requeue .bindingNotVisible), machine)
  | .error error => return (.error (.store error), machine)

/-- The message for a machine that asks for no server at all. -/
def noReferenceMessage : String := "either a server or a server class reference must be set"

/-- The machine with the failure reported that it asks for no server at all. -/
def MetalMachine.reportInvalid (machine : MetalMachine) : MetalMachine :=
  machine.updateStatus ({ · with
    failureReason := some MetalMachine.invalidConfiguration
    failureMessage := some noReferenceMessage })

/-- The machine without the failure that it asks for no server at all. -/
def MetalMachine.clearInvalid (machine : MetalMachine) : MetalMachine :=
  if machine.status.any fun status => status.failureReason == some invalidConfiguration then
    machine.updateStatus ({ · with failureReason := none, failureMessage := none })
  else machine

/-- Gets a machine that names a server on its way. -/
def allocateNamed (machine : MetalMachine) (cluster : ObjectKey) (server : String) :
    Pass (Except PassError Outcome × MetalMachine) := do
  match ← (ensureNamed machine server).run with
  | .error error => return (.error error, machine)
  | .ok (some reason) => return (.ok (.requeue reason), machine)
  | .ok none => reportReady machine cluster server

/-- Gets a machine that names a class on its way. -/
def allocateFromClass (machine : MetalMachine) (cluster : ObjectKey) :
    Pass (Except PassError Outcome × MetalMachine) := do
  match ← (serverFromClass machine).run with
  | .error error => return (.error error, machine)
  | .ok none =>
      Pass.count .noEligibleServers
      return (.ok (.requeue .noEligibleServers), machine)
  | .ok (some server) =>
      reportReady { machine with spec.serverRef := some (.ofName server) } cluster server

/-- Gets a machine on its way that passed the gates: the result, and the machine as it is to be
written back. -/
def allocate (machine : MetalMachine) (cluster : ObjectKey) :
    Pass (Except PassError Outcome × MetalMachine) :=
  let machine := machine.addFinalizer
  match machine.spec.serverRef, machine.spec.serverClassRef with
  | none, none => return (.ok .done, machine.reportInvalid)
  | some reference, _ => allocateNamed machine.clearInvalid cluster reference.name
  | none, some _ => allocateFromClass machine.clearInvalid cluster

/-- Works on a copy of a machine and writes its changes back. -/
def withCommit (machine : MetalMachine)
    (work : MetalMachine → Pass (Except PassError Outcome × MetalMachine)) :
    Pass (Except PassError Outcome) := do
  let (result, after) ← work machine
  finishMachine machine after result

/-- A pass over a machine that is there under a key. -/
def currentMachinePass (key : ObjectKey) (machine : MetalMachine) :
    Pass (Except PassError Outcome) := do
  if machine.isDeleting then
    if machine.hasFinalizer then withCommit machine release else return .ok .done
  else
    match ← (gates key machine).run with
    | .error error => return .error error
    | .ok (.closed reason) => return .ok (.requeue reason)
    | .ok (.passed cluster) => withCommit machine (allocate · cluster)

/-- A pass over the machine of a key. -/
def machinePass (key : ObjectKey) : Pass (Except PassError Outcome) := do
  match ← Pass.call (.getMetalMachine key) with
  | .ok machine =>
      Pass.learn (.machineSeen machine)
      currentMachinePass key machine
  | .error (.notFound _) =>
      Pass.learn (.machineGone key)
      return .ok .done
  | .error error => return .error (.store error)

end BareMetal
