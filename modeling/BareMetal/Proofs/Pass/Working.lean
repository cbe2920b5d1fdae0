import BareMetal.Pass.Machine
import BareMetal.Proofs.Conditions
import BareMetal.Proofs.Pass.Offering

/-!
# What a pass works on a machine

A pass that got past the gates prepares a copy of its machine and may claim a server.  `Works` lists
the ways in which that can go, each with what it takes: the copy, the objects and the nodes follow
from the objects, the nodes and the time at which the pass started.
-/

namespace BareMetal

open Store

variable {world : Surroundings} {machine : MetalMachine} {server : String} {binding : ServerBinding}

/-! ## Reports -/

/-- What is reported of the provider ID of a server's node, undated. -/
def Nodes.report (nodes : Nodes) (server : String) : Condition :=
  match (nodes.stamp server (MetalMachine.providerIdFor server)).1 with
  | .ok _ => { type := Condition.providerSetType, status := .holds }
  | .error error =>
      { type := Condition.providerSetType
        status := .fails
        severity := some .warning
        reason := some Condition.providerUpdateFailed
        message := some error.message }

/-- The nodes after the provider ID of a server's node was set. -/
def Nodes.stamped (nodes : Nodes) (server : String) : Nodes :=
  (nodes.stamp server (MetalMachine.providerIdFor server)).2

/-- How a pass ends that tried to set the provider ID of a server's node. -/
def Nodes.outcome (nodes : Nodes) (server : String) : Outcome :=
  match (nodes.stamp server (MetalMachine.providerIdFor server)).1 with
  | .ok _ => .done
  | .error _ => .requeue .providerIdNotSet

/-- The status of a machine once its binding is ready and its node was tried. -/
def MetalMachineStatus.report (status : MetalMachineStatus) (binding : ServerBinding)
    (condition : Condition) : MetalMachineStatus :=
  (status.becomeReady binding).setCondition condition

/-- Setting the provider ID again goes as it went before. -/
@[simp] theorem Nodes.report_stamped (nodes : Nodes) (server : String) :
    (nodes.stamped server).report server = nodes.report server := by
  have again : ∀ providerId, ((nodes.stamp server providerId).2.stamp server providerId).1 =
      (nodes.stamp server providerId).1 := by
    intro providerId
    match entries : (nodes.get? server).getD [] with
    | [] => simp [stamp, entries]
    | [_] => simp [stamp, entries]
    | _ :: _ :: _ => simp [stamp, entries]
  unfold report stamped
  rw [again]

/-- The status reported again is the same exactly if the conditions are. -/
theorem MetalMachineStatus.report_report_eq_iff {status : MetalMachineStatus}
    {first second : Condition} :
    (status.report binding first).report binding second = status.report binding first ↔
      (binding.conditions ++ [second]).foldl Condition.set
          ((binding.conditions ++ [first]).foldl Condition.set status.conditions) =
        (binding.conditions ++ [first]).foldl Condition.set status.conditions := by
  simp [report, becomeReady, setCondition]

/-- A machine with its node tried, and how the pass over it ends. -/
theorem stampNode_run (machine : MetalMachine) (cluster : ObjectKey) (server : String)
    (world : Surroundings) : (stampNode machine cluster server).run world =
      ((.ok (world.nodes.outcome server),
          machine.updateStatus (·.setCondition ((world.nodes.report server).since
            (world.clock.shows world.clock.readings)))),
        { world with
          nodes := world.nodes.stamped server
          clock.readings := world.clock.readings + 1 }) := by
  have stamped : (stampNode machine cluster server).run world =
      (match (world.nodes.stamp server (MetalMachine.providerIdFor server)).1 with
        | .ok _ => do
            let condition := Condition.holding Condition.providerSetType (← Pass.now)
            return (.ok .done, machine.updateStatus (·.setCondition condition))
        | .error error => do
            let condition := Condition.failing Condition.providerSetType
              Condition.providerUpdateFailed .warning error.message (← Pass.now)
            return (.ok (.requeue .providerIdNotSet),
              machine.updateStatus (·.setCondition condition)) : Pass _).run
        { world with nodes := world.nodes.stamped server } := rfl
  rw [stamped]
  unfold Nodes.report Nodes.outcome
  cases (world.nodes.stamp server (MetalMachine.providerIdFor server)).1 <;> rfl

theorem reportReady_run_of_unbound (world : Surroundings)
    (unbound : world.store.serverBindings.get? server = none) (copy : MetalMachine)
    (cluster : ObjectKey) : (reportReady copy cluster server).run world =
      ((.ok (.requeue .bindingNotVisible),
          { copy with spec.providerId := some (MetalMachine.providerIdFor server) }), world) := by
  unfold reportReady
  dsimp only
  rw [Pass.run_get_bind _ world fun _ => rfl, unbound]
  rfl

section

variable (world) (bound : world.store.serverBindings.get? server = some binding)

include bound

theorem reportReady_run_of_unready (unready : binding.isReady = false) (copy : MetalMachine)
    (cluster : ObjectKey) : (reportReady copy cluster server).run world =
      ((.ok (.requeue .bindingNotReady),
          { copy with spec.providerId := some (MetalMachine.providerIdFor server) }), world) := by
  unfold reportReady
  dsimp only
  rw [Pass.run_get_bind _ world fun _ => rfl, bound]
  simp only [found, unready]
  rfl

theorem reportReady_run_of_ready (ready : binding.isReady = true) (copy : MetalMachine)
    (cluster : ObjectKey) : (reportReady copy cluster server).run world =
      ((.ok (world.nodes.outcome server), MetalMachine.updateStatus
          { copy with spec.providerId := some (MetalMachine.providerIdFor server) }
          (·.report binding ((world.nodes.report server).since
            (world.clock.shows world.clock.readings)))),
        { world with
          nodes := world.nodes.stamped server
          clock.readings := world.clock.readings + 1 }) := by
  unfold reportReady
  dsimp only
  rw [Pass.run_get_bind _ world fun _ => rfl, bound]
  simp only [found, ready, if_true]
  exact stampNode_run _ cluster server world

end

/-! ## The copy that is written back -/

namespace MetalMachine

/-- A machine that may get a server: with the finalizer and without the failure of an empty
request. -/
def prepared (machine : MetalMachine) : MetalMachine := machine.addFinalizer.clearInvalid

/-- A machine that holds a server: it names the server and has its provider ID. -/
def holding (machine : MetalMachine) (server : String) : MetalMachine :=
  { machine.prepared with
    spec.serverRef := machine.spec.serverRef.or (some (.ofName server))
    spec.providerId := some (providerIdFor server) }

/-- A machine asks for a server if it names the server, or if it names none but a class. -/
def Asks (machine : MetalMachine) (server : String) : Prop :=
  machine.namedServer? = some server ∨
    machine.spec.serverRef = none ∧ machine.spec.serverClassRef.isSome = true

@[simp] theorem key_prepared (machine : MetalMachine) : machine.prepared.key = machine.key := by
  simp [prepared]

@[simp] theorem spec_prepared (machine : MetalMachine) : machine.prepared.spec = machine.spec := by
  simp [prepared]

@[simp] theorem metadata_prepared (machine : MetalMachine) :
    machine.prepared.metadata = machine.addFinalizer.metadata := by
  simp [prepared]

@[simp] theorem claim_prepared (machine : MetalMachine) :
    claim machine.prepared = claim machine := by
  simp [prepared]

theorem holding_of_named {reference : Reference} (named : machine.spec.serverRef = some reference)
    (server : String) : machine.holding server =
      { machine.prepared with spec.providerId := some (providerIdFor server) } := by
  simp [holding, named]

end MetalMachine

/-! ## Ways to work -/

/-- The ways in which a pass works on a machine that passed the gates: the copy to be written back,
the objects and the nodes. -/
inductive Works (store : Store) (nodes : Nodes) (now : Timestamp) (machine : MetalMachine) :
    MetalMachine → Store → Nodes → Prop
  /-- The machine asks for no server at all. -/
  | invalid (nameless : machine.spec.serverRef = none)
      (classless : machine.spec.serverClassRef = none) :
      Works store nodes now machine machine.addFinalizer.reportInvalid store nodes
  /-- The machine may not hold the server that it names. -/
  | refused {server : String} {error : PassError} (named : machine.namedServer? = some server)
      (refuses : store.mayHold machine.key server = .error error) :
      Works store nodes now machine machine.prepared store nodes
  /-- The machine claims the server that it names. -/
  | claims {server : String} (named : machine.namedServer? = some server)
      (free : store.mayHold machine.key server = .ok false) :
      Works store nodes now machine machine.prepared
        (store.withCreated (claim machine server machine.spec.serverClassRef)) nodes
  /-- The class has nothing for the machine. -/
  | unserved {serverClass : Reference} (nameless : machine.spec.serverRef = none)
      (classed : machine.spec.serverClassRef = some serverClass)
      (nothing : store.HoldsNothing machine.key)
      (unoffered : ∀ server, store.offer serverClass.name ≠ .ok (some server)) :
      Works store nodes now machine machine.prepared store nodes
  /-- The machine claims a server of the class. -/
  | allocates {serverClass : Reference} {server : String}
      (nameless : machine.spec.serverRef = none)
      (classed : machine.spec.serverClassRef = some serverClass)
      (nothing : store.HoldsNothing machine.key)
      (offered : store.offer serverClass.name = .ok (some server))
      (reference : Option Reference) :
      Works store nodes now machine (machine.holding server)
        (store.withCreated (claim machine server reference)) nodes
  /-- The machine holds a server whose binding is not ready. -/
  | waits {server : String} {binding : ServerBinding} (asks : machine.Asks server)
      (bound : store.serverBindings.get? server = some binding)
      (held : binding.isHeldBy machine.key = true) (unready : binding.isReady = false) :
      Works store nodes now machine (machine.holding server) store nodes
  /-- The machine holds a server whose binding is ready. -/
  | reports {server : String} {binding : ServerBinding} (asks : machine.Asks server)
      (bound : store.serverBindings.get? server = some binding)
      (held : binding.isHeldBy machine.key = true) (ready : binding.isReady = true) :
      Works store nodes now machine ((machine.holding server).updateStatus
        (·.report binding ((nodes.report server).since now))) store (nodes.stamped server)

/-- A pass that ends with a copy of its machine worked in one of the ways. -/
def Worked (world : Surroundings) (machine : MetalMachine)
    (ended : (Except PassError Outcome × MetalMachine) × Surroundings) : Prop :=
  Works world.store world.nodes (world.clock.shows world.clock.readings) machine ended.1.2
    ended.2.store ended.2.nodes

theorem reportReady_worked {server : String} {binding : ServerBinding} (asks : machine.Asks server)
    (bound : world.store.serverBindings.get? server = some binding)
    (held : binding.isHeldBy machine.key = true) {copy : MetalMachine}
    (prepares : { copy with spec.providerId := some (MetalMachine.providerIdFor server) } =
      machine.holding server) (cluster : ObjectKey) (memory : Memory) :
    Worked world machine ((reportReady copy cluster server).run (world.withMemory memory)) := by
  cases ready : binding.isReady with
  | false =>
      rw [reportReady_run_of_unready (world.withMemory memory) bound ready copy cluster, prepares]
      exact .waits asks bound held ready
  | true =>
      rw [reportReady_run_of_ready (world.withMemory memory) bound ready copy cluster, prepares]
      exact .reports asks bound held ready

theorem namedServer?_of_serverRef {reference : Reference}
    (named : machine.spec.serverRef = some reference) :
    machine.namedServer? = some reference.name := by
  rw [MetalMachine.namedServer?, named]
  rfl

/-- The server that a machine names is held, claimed or refused. -/
theorem allocateNamed_worked {reference : Reference}
    (named : machine.spec.serverRef = some reference) (cluster : ObjectKey) :
    Worked world machine
      ((allocateNamed machine.prepared cluster reference.name).run world) := by
  have names := namedServer?_of_serverRef named
  have names_copy : machine.prepared.namedServer? = some reference.name := by
    rw [MetalMachine.namedServer?, machine.spec_prepared, named]
    rfl
  obtain ⟨memory, ensured⟩ := ensureNamed_run names_copy world
  unfold allocateNamed
  rw [machine.key_prepared] at ensured
  cases may : world.store.mayHold machine.key reference.name with
  | error error =>
      rw [may] at ensured
      rw [Pass.run_bind_of ensured]
      exact .refused names may
  | ok holds =>
      cases holds with
      | false =>
          rw [may, machine.claim_prepared, machine.spec_prepared] at ensured
          rw [Pass.run_bind_of ensured]
          exact .claims names may
      | true =>
          rw [may] at ensured
          rw [Pass.run_bind_of ensured]
          obtain ⟨binding, bound, held⟩ := bound_of_mayHold may
          exact reportReady_worked (.inl names) bound held (machine.holding_of_named named _).symm
            cluster world.memory

/-- A machine that names a class keeps what it holds, or gets what the class offers. -/
theorem allocateFromClass_worked {serverClass : Reference} (named : world.store.NamesBindings)
    (nameless : machine.spec.serverRef = none)
    (classed : machine.spec.serverClassRef = some serverClass) (cluster : ObjectKey) :
    Worked world machine ((allocateFromClass machine.prepared cluster).run world) := by
  have classed_copy : machine.prepared.spec.serverClassRef = some serverClass := by
    rw [machine.spec_prepared, classed]
  have prepares : ∀ server, MetalMachine.holding machine server =
      { machine.prepared with
        spec.serverRef := some (.ofName server)
        spec.providerId := some (MetalMachine.providerIdFor server) } := by
    intro server
    rw [MetalMachine.holding, nameless]
    rfl
  unfold allocateFromClass
  cases found : world.held machine.prepared.key with
  | cons binding rest =>
      obtain ⟨memory, ran⟩ := serverFromClass_run_of_held found
      rw [Pass.run_bind_of ran]
      have member : binding ∈ world.held machine.prepared.key := found ▸ List.mem_cons_self
      rw [machine.key_prepared] at member
      obtain ⟨name, held⟩ := Surroundings.heldUnder?_of_mem_held member
      obtain ⟨bound, holds⟩ := heldUnder?_eq_some_iff.1 held
      rw [named name binding bound]
      exact reportReady_worked (.inr ⟨nameless, by rw [classed]; rfl⟩) bound holds
        (prepares name).symm cluster memory
  | nil =>
      have nothing := Surroundings.held_eq_nil_iff.1 found
      obtain ⟨memory, ran⟩ := serverFromClass_run_of_holdsNothing classed_copy nothing
      rw [machine.key_prepared] at nothing
      rw [Pass.run_bind_of ran]
      match offered : world.store.offer serverClass.name with
      | .error error =>
          exact .unserved nameless classed nothing fun server => by simp [offered]
      | .ok none =>
          exact .unserved nameless classed nothing fun server => by simp [offered]
      | .ok (some server) =>
          have created := Dict.get?_insert_self world.store.serverBindings server
            (world.store.createdBinding (claim machine.prepared server
              ((world.store.serverClasses.get? serverClass.name).map .toObject)))
          have reported := reportReady_run_of_unready
            ((world.withStore (world.store.taking machine.prepared
              ((world.store.serverClasses.get? serverClass.name).map .toObject)
                (.ok (some server)))).withMemory memory)
            created rfl { machine.prepared with spec.serverRef := some (.ofName server) } cluster
          dsimp only
          rw [reported]
          have works : Works world.store world.nodes (world.clock.shows world.clock.readings)
              machine (machine.holding server) _ world.nodes :=
            .allocates nameless classed nothing offered
              ((world.store.serverClasses.get? serverClass.name).map .toObject)
          rw [prepares server, ← machine.claim_prepared] at works
          exact works

/-- A pass that got past the gates works on its machine in one of the ways. -/
theorem allocate_worked (world : Surroundings) (named : world.store.NamesBindings)
    (machine : MetalMachine) (cluster : ObjectKey) :
    Worked world machine ((allocate machine cluster).run world) := by
  have same_spec := machine.spec_addFinalizer
  unfold allocate
  dsimp only
  split
  · rename_i nameless classless
    rw [same_spec] at nameless classless
    exact .invalid nameless classless
  · rename_i reference _ found
    rw [same_spec] at found
    exact allocateNamed_worked found cluster
  · rename_i nameless classed
    rw [same_spec] at nameless classed
    exact allocateFromClass_worked named nameless classed cluster

end BareMetal
