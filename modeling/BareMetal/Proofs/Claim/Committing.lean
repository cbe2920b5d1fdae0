import BareMetal.Proofs.Claim.Quiescence

/-!
# What a pass commits

A pass over a machine that is not marked for deletion ends with the first prerequisite that is not
met and writes nothing, or it works on a copy of the machine and commits the copy however the work
ends.  The copy then has the finalizer, tells whether the machine asks for anything, and names the
server that was claimed for it.
-/

namespace BareMetal

open Store

variable {machine copy : MetalMachine} {world later : Surroundings} {server : String}

/-! ## Prerequisites -/

/-- What has to be there before a machine gets a server, in the order in which it is looked for. -/
inductive Prerequisite where
  /-- The machine has an owner machine. -/
  | ownerReference
  /-- The owner machine is there. -/
  | owner
  /-- The owner machine names its cluster. -/
  | clusterName
  /-- The cluster is there. -/
  | cluster
  /-- The cluster is not paused. -/
  | unpaused
  /-- The infrastructure of the cluster is ready. -/
  | infrastructure
  /-- The owner machine has bootstrap data. -/
  | bootstrapData
  deriving DecidableEq

namespace Prerequisite

/-- All prerequisites. -/
def all : List Prerequisite :=
  [ownerReference, owner, clusterName, cluster, unpaused, infrastructure, bootstrapData]

/-- What a pass over a machine waits for without a prerequisite, or how it fails. -/
def answer (machine : MetalMachine) : Prerequisite → Except PassError WaitReason
  | ownerReference | owner => .ok .ownerMachineMissing
  | clusterName => .error (.invalidConfig ("Machine " ++
      ((machine.ownerKey?.map ObjectKey.display).getD "") ++ " does not name its cluster"))
  | cluster | infrastructure => .ok .clusterNotReady
  | unpaused => .ok .clusterPaused
  | bootstrapData => .ok .bootstrapDataMissing

end Prerequisite

namespace Store

/-- The owner machine of a machine, if it is there. -/
def ownerOf? (store : Store) (machine : MetalMachine) : Option Machine :=
  machine.ownerKey?.bind store.machines.get?

/-- The cluster that the owner machine of a machine names, if it is there. -/
def clusterOf? (store : Store) (machine : MetalMachine) : Option Cluster :=
  ((store.ownerOf? machine).bind Machine.clusterName?).bind fun name =>
    store.clusters.get? ⟨machine.key.space, name⟩

/-- Whether a prerequisite is met. -/
def meets (store : Store) (machine : MetalMachine) : Prerequisite → Bool
  | .ownerReference => machine.ownerKey?.isSome
  | .owner => (store.ownerOf? machine).isSome
  | .clusterName => ((store.ownerOf? machine).bind Machine.clusterName?).isSome
  | .cluster => (store.clusterOf? machine).isSome
  | .unpaused => (store.clusterOf? machine).any (!·.spec.paused)
  | .infrastructure => (store.clusterOf? machine).any Cluster.isInfrastructureReady
  | .bootstrapData => ((store.ownerOf? machine).bind Machine.bootstrapSecret?).isSome

/-- The first prerequisite that is not met. -/
def firstUnmet? (store : Store) (machine : MetalMachine) : Option Prerequisite :=
  Prerequisite.all.find? fun prerequisite => !store.meets machine prerequisite

/-- What the gates say: the first prerequisite that is not met shuts them. -/
def gate (store : Store) (machine : MetalMachine) (cluster : ObjectKey) : Except PassError Gate :=
  match store.firstUnmet? machine with
  | some missing => (missing.answer machine).map .closed
  | none => .ok (.passed cluster)

end Store

section

variable {ownerKey : ObjectKey} {owner : Machine} (owned : machine.ownerKey? = some ownerKey)

include owned

theorem clusterGate_eq {store : Store} {name : String} {cluster : Cluster}
    (there : store.ownerOf? machine = some owner) (names : owner.clusterName? = some name)
    (found : store.clusters.get? ⟨machine.key.space, name⟩ = some cluster)
    (clusterKey : ObjectKey) :
    .ok (clusterGate clusterKey cluster owner) = store.gate machine clusterKey := by
  have cluster_there : store.clusterOf? machine = some cluster := by
    simp [clusterOf?, there, names, found]
  -- Behind the look-ups three questions are left, and they are asked in the same order.
  unfold clusterGate gate
  cases paused : cluster.spec.paused <;> cases ready : cluster.isInfrastructureReady <;>
    cases secret : owner.bootstrapSecret? <;>
    simp [firstUnmet?, Prerequisite.all, meets, owned, there, names, cluster_there, paused, ready,
      secret, Prerequisite.answer, Except.map]

theorem ownerGates_run_eq {world : Surroundings}
    (there : world.store.ownerOf? machine = some owner) : ∃ cluster,
      ((ownerGates machine.key ownerKey owner).run.run world).1 =
        world.store.gate machine cluster := by
  unfold ownerGates
  cases names : owner.clusterName? with
  | none =>
      have unmet : world.store.firstUnmet? machine = some .clusterName := by
        simp [firstUnmet?, Prerequisite.all, meets, owned, there, names]
      refine ⟨machine.key, ?_⟩
      simp only [gate, unmet, Prerequisite.answer, owned]
      rfl
  | some name =>
      rw [Attempt.run_get_bind _ world fun _ => rfl]
      cases found : world.store.clusters.get? ⟨machine.key.space, name⟩ with
      | none =>
          have unmet : world.store.firstUnmet? machine = some .cluster := by
            simp [firstUnmet?, Prerequisite.all, meets, clusterOf?, owned, there, names, found]
          exact ⟨machine.key, by rw [gate, unmet]; rfl⟩
      | some cluster =>
          exact ⟨⟨machine.key.space, name⟩, clusterGate_eq owned there names found _⟩

end

/-- The gates are shut by the first prerequisite that is not met. -/
theorem gates_run_eq (machine : MetalMachine) (world : Surroundings) : ∃ cluster,
    ((gates machine.key machine).run.run world).1 = world.store.gate machine cluster := by
  unfold gates
  cases owned : machine.ownerKey? with
  | none =>
      have unmet : world.store.firstUnmet? machine = some .ownerReference := by
        simp [firstUnmet?, Prerequisite.all, meets, owned]
      exact ⟨machine.key, by rw [gate, unmet]; rfl⟩
  | some ownerKey =>
      rw [Attempt.run_get_bind _ world fun _ => rfl]
      cases found : world.store.machines.get? ownerKey with
      | none =>
          have unmet : world.store.firstUnmet? machine = some .owner := by
            simp [firstUnmet?, Prerequisite.all, meets, ownerOf?, owned, found]
          exact ⟨machine.key, by rw [gate, unmet]; rfl⟩
      | some owner =>
          have there : world.store.ownerOf? machine = some owner := by
            simp [ownerOf?, owned, found]
          exact ownerGates_run_eq owned there

/-! ## What is to be committed -/

namespace MetalMachine

theorem finalizers_addFinalizer (machine : MetalMachine) :
    ∃ names, machine.addFinalizer.metadata.finalizers = some names ∧ finalizer ∈ names ∧
      names.filter (· != finalizer) =
        (machine.metadata.finalizers.getD []).filter (· != finalizer) := by
  unfold addFinalizer
  split
  · rename_i guarded
    obtain ⟨names, own, among⟩ := (Option.any_eq_true _ _).1 guarded
    exact ⟨names, own, List.contains_iff_mem.1 among, by rw [own]; rfl⟩
  · exact ⟨_, rfl, by simp, by simp⟩

/-- The failure that is reported of a machine: a word for it and the details. -/
def failure (machine : MetalMachine) : Option String × Option String :=
  (machine.currentStatus.failureReason, machine.currentStatus.failureMessage)

theorem failure_congr (same : copy.status = machine.status) : copy.failure = machine.failure := by
  rw [failure, failure, currentStatus, currentStatus, same]

theorem isInvalid_iff (machine : MetalMachine) :
    machine.isInvalid = true ↔ machine.failure.1 = some invalidConfiguration := by
  rw [isInvalid, failure, currentStatus]
  cases machine.status <;> simp

/-- A prepared machine is not reported to ask for nothing, and other failures stay. -/
theorem failure_prepared (machine : MetalMachine) :
    machine.prepared.failure.1 ≠ some invalidConfiguration ∧
      (machine.failure.1 ≠ some invalidConfiguration →
        machine.prepared.failure = machine.failure) := by
  have same_failure : machine.addFinalizer.failure = machine.failure :=
    failure_congr machine.status_addFinalizer
  constructor
  · rw [ne_eq, ← isInvalid_iff, machine.isInvalid_prepared]
    exact Bool.false_ne_true
  · intro other
    rw [← same_failure, ne_eq, ← isInvalid_iff] at other
    have uncleared : machine.prepared = machine.addFinalizer := if_neg other
    rw [uncleared, same_failure]

theorem isInvalid_reportInvalid (machine : MetalMachine) : machine.reportInvalid.isInvalid = true :=
  beq_self_eq_true _

/-- Reporting the server's state leaves failures alone. -/
theorem failure_report (machine : MetalMachine) (binding : ServerBinding) (condition : Condition) :
    (machine.updateStatus (·.report binding condition)).failure = machine.failure :=
  rfl

end MetalMachine

/-- What trying to report a copy of a machine ready changes of it: it gets the provider ID of its
server, and its status may tell more. -/
structure Announces (copy : MetalMachine) (server : String) (store : Store)
    (ended : (Except PassError Outcome × MetalMachine) × Surroundings) : Prop where
  store_eq : ended.2.store = store
  metadata : ended.1.2.metadata = copy.metadata
  spec : ended.1.2.spec =
    { copy.spec with providerId := some (MetalMachine.providerIdFor server) }
  status : ended.1.2.status = copy.status ∨ ended.1.2.status.isSome = true
  failure : ended.1.2.failure = copy.failure

theorem reportReady_announces (copy : MetalMachine) (cluster : ObjectKey) (server : String)
    (world : Surroundings) :
    Announces copy server world.store ((reportReady copy cluster server).run world) := by
  cases bound : world.store.serverBindings.get? server with
  | none =>
      rw [reportReady_run_of_unbound world bound]
      exact ⟨rfl, rfl, rfl, .inl rfl, rfl⟩
  | some binding =>
      cases ready : binding.isReady with
      | false =>
          rw [reportReady_run_of_unready world bound ready]
          exact ⟨rfl, rfl, rfl, .inl rfl, rfl⟩
      | true =>
          rw [reportReady_run_of_ready world bound ready]
          exact ⟨rfl, rfl, rfl, .inr rfl, MetalMachine.failure_report _ _ _⟩

/-- What work on a machine leaves to be committed. -/
structure Drafts (machine : MetalMachine) (before : Store)
    (ended : (Except PassError Outcome × MetalMachine) × Surroundings) : Prop where
  metadata : ended.1.2.metadata = machine.addFinalizer.metadata
  status : ended.1.2.status = machine.status ∨ ended.1.2.status.isSome = true
  metalMachines : ended.2.store.metalMachines = before.metalMachines
  unasked : machine.spec.serverRef = none → machine.spec.serverClassRef = none →
    ended.1.2.isInvalid = true ∧ ended.1.1 = .ok .done ∧
      ended.2.store.serverBindings = before.serverBindings
  asked : machine.spec.serverRef.isSome = true ∨ machine.spec.serverClassRef.isSome = true →
    ended.1.2.failure = machine.prepared.failure
  claimed : machine.spec.serverRef = none → ∀ server binding,
    before.serverBindings.get? server = none →
      ended.2.store.serverBindings.get? server = some binding →
        ended.1.2.namedServer? = some server ∧
          ended.1.2.spec.providerId = some (MetalMachine.providerIdFor server)

section

variable {before store : Store}
  (asks : machine.spec.serverRef.isSome = true ∨ machine.spec.serverClassRef.isSome = true)

include asks

/-- Work that stops early leaves the prepared machine. -/
theorem drafts_prepared {result : Except PassError Outcome}
    (metalMachines : later.store.metalMachines = before.metalMachines)
    (unclaimed : machine.spec.serverRef = none →
      later.store.serverBindings = before.serverBindings) :
    Drafts machine before ((result, machine.prepared), later) where
  metadata := machine.metadata_prepared
  status := machine.status_prepared
  metalMachines := metalMachines
  unasked nameless classless := by simp [nameless, classless] at asks
  asked _ := rfl
  claimed nameless server binding free bound := by
    change later.store.serverBindings.get? server = some binding at bound
    rw [unclaimed nameless, free] at bound
    contradiction

/-- Work that goes on to announce a server leaves the prepared machine with that server. -/
theorem drafts_of_announces {ended : (Except PassError Outcome × MetalMachine) × Surroundings}
    (announces : Announces copy server store ended)
    (metadata : copy.metadata = machine.prepared.metadata)
    (status : copy.status = machine.prepared.status)
    (metalMachines : store.metalMachines = before.metalMachines)
    (claimed : machine.spec.serverRef = none → ∀ other binding,
      before.serverBindings.get? other = none → store.serverBindings.get? other = some binding →
        other = server ∧ copy.namedServer? = some server) :
    Drafts machine before ended where
  metadata := by rw [announces.metadata, metadata, machine.metadata_prepared]
  status := by
    rcases announces.status with same | there
    · rw [same, status]
      exact machine.status_prepared
    · exact .inr there
  metalMachines := by rw [announces.store_eq, metalMachines]
  unasked nameless classless := by simp [nameless, classless] at asks
  asked _ := by rw [announces.failure, MetalMachine.failure_congr status]
  claimed nameless other binding free bound := by
    rw [announces.store_eq] at bound
    obtain ⟨rfl, names⟩ := claimed nameless other binding free bound
    rw [MetalMachine.namedServer?, announces.spec]
    exact ⟨names, rfl⟩

end

theorem allocateNamed_drafts {reference : Reference}
    (named : machine.spec.serverRef = some reference) (cluster : ObjectKey)
    (world : Surroundings) : Drafts machine world.store
      ((allocateNamed machine.prepared cluster reference.name).run world) := by
  have asks : machine.spec.serverRef.isSome = true ∨ machine.spec.serverClassRef.isSome = true :=
    .inl (by rw [named]; rfl)
  have not_nameless : machine.spec.serverRef ≠ none := by simp [named]
  have names : machine.prepared.namedServer? = some reference.name :=
    namedServer?_of_serverRef (machine.spec_prepared ▸ named)
  obtain ⟨memory, ensured⟩ := ensureNamed_run names world
  unfold allocateNamed
  cases may : world.store.mayHold machine.prepared.key reference.name with
  | error error =>
      rw [may] at ensured
      rw [Pass.run_bind_of ensured]
      exact drafts_prepared asks rfl fun _ => rfl
  | ok holds =>
      cases holds with
      | false =>
          rw [may] at ensured
          rw [Pass.run_bind_of ensured]
          exact drafts_prepared asks rfl fun nameless => absurd nameless not_nameless
      | true =>
          rw [may] at ensured
          rw [Pass.run_bind_of ensured]
          exact drafts_of_announces asks (reportReady_announces _ cluster _ _) rfl rfl rfl
            fun nameless => absurd nameless not_nameless

theorem allocateFromClass_drafts {serverClass : Reference}
    (classed : machine.spec.serverClassRef = some serverClass) (cluster : ObjectKey)
    (world : Surroundings) : Drafts machine world.store
      ((allocateFromClass machine.prepared cluster).run world) := by
  have asks : machine.spec.serverRef.isSome = true ∨ machine.spec.serverClassRef.isSome = true :=
    .inr (by rw [classed]; rfl)
  have classed_copy : machine.prepared.spec.serverClassRef = some serverClass := by
    rw [machine.spec_prepared, classed]
  unfold allocateFromClass
  cases found : world.held machine.prepared.key with
  | cons binding rest =>
      obtain ⟨memory, ran⟩ := serverFromClass_run_of_held found
      rw [Pass.run_bind_of ran]
      refine drafts_of_announces asks (reportReady_announces _ cluster _ _) rfl rfl rfl ?_
      intro _ other present free bound
      exact nomatch free.symm.trans bound
  | nil =>
      obtain ⟨memory, ran⟩ := serverFromClass_run_of_holdsNothing classed_copy
        (Surroundings.held_eq_nil_iff.1 found)
      rw [Pass.run_bind_of ran]
      match offered : world.store.offer serverClass.name with
      | .error error => exact drafts_prepared asks rfl fun _ => rfl
      | .ok none => exact drafts_prepared asks rfl fun _ => rfl
      | .ok (some server) =>
          refine drafts_of_announces asks (reportReady_announces _ cluster server _) rfl rfl rfl ?_
          intro _ other binding free bound
          rcases Dict.get?_insert_eq_some.1 bound with ⟨same, _⟩ | ⟨_, bound⟩
          · exact ⟨same, rfl⟩
          · exact nomatch free.symm.trans bound

/-- However work on a machine ends, it leaves a draft. -/
theorem allocate_drafts (machine : MetalMachine) (cluster : ObjectKey) (world : Surroundings) :
    Drafts machine world.store ((allocate machine cluster).run world) := by
  have same_spec := machine.spec_addFinalizer
  unfold allocate
  dsimp only
  split
  · rename_i nameless classless
    rw [same_spec] at nameless classless
    constructor
    case metadata => rfl
    case status => exact .inr rfl
    case metalMachines => rfl
    case unasked => exact fun _ _ => ⟨machine.addFinalizer.isInvalid_reportInvalid, rfl, rfl⟩
    case asked => simp [nameless, classless]
    case claimed => exact fun _ _ _ free bound => nomatch free.symm.trans bound
  · rename_i named
    rw [same_spec] at named
    exact allocateNamed_drafts named cluster world
  · rename_i classed
    rw [same_spec] at classed
    exact allocateFromClass_drafts classed cluster world

/-! ## What is stored -/

/-- What a pass that met all prerequisites leaves of its machine, however it ended. -/
structure Committed (machine : MetalMachine) (before : Store)
    (ended : Except PassError Outcome × Surroundings) (last : MetalMachine) : Prop where
  /-- The finalizer is there, and the others are in their order. -/
  finalizers : ∃ names, last.metadata.finalizers = some names ∧ MetalMachine.finalizer ∈ names ∧
    names.filter (· != MetalMachine.finalizer) =
      (machine.metadata.finalizers.getD []).filter (· != MetalMachine.finalizer)
  /-- Without a request the failure is reported and no server is claimed. -/
  unasked : machine.spec.serverRef = none → machine.spec.serverClassRef = none →
    last.failure.1 = some MetalMachine.invalidConfiguration ∧ ended.1 = .ok .done ∧
      ended.2.store.serverBindings = before.serverBindings
  /-- With a request only that failure is cleared. -/
  asked : machine.spec.serverRef.isSome = true ∨ machine.spec.serverClassRef.isSome = true →
    last.failure.1 ≠ some MetalMachine.invalidConfiguration ∧
      (machine.failure.1 ≠ some MetalMachine.invalidConfiguration →
        last.failure = machine.failure)
  /-- The machine names a server that was claimed from its class. -/
  claimed : machine.spec.serverRef = none → ∀ server binding,
    before.serverBindings.get? server = none →
      ended.2.store.serverBindings.get? server = some binding →
        last.namedServer? = some server ∧ last.spec.providerId = some ("metal://" ++ server)

/-- What a pass over a machine leaves: nothing new without a prerequisite, and all of its work
otherwise. -/
structure AllOrNothing (machine : MetalMachine) (world : Surroundings)
    (ended : Except PassError Outcome × Surroundings) : Prop where
  /-- The first prerequisite that is not met decides how the pass ends. -/
  nothing : ∀ missing, world.store.firstUnmet? machine = some missing →
    ended.1 = (missing.answer machine).map .requeue ∧ ended.2.store = world.store ∧
      ended.2.nodes = world.nodes
  /-- If all are met the machine is stored as the pass left it. -/
  all : world.store.firstUnmet? machine = none → ∃ last,
    ended.2.store.metalMachines.get? machine.key = some last ∧
      Committed machine world.store ended last

/-- A draft that is committed is what the pass leaves. -/
theorem Drafts.committed {before stored : Store} {now : Surroundings}
    {result : Except PassError Outcome} (drafts : Drafts machine before ((result, copy), now))
    (commits : Commits machine copy now.store stored) (version : Option String) :
    Committed machine before (result, now.withStore stored)
      { copy with metadata.resourceVersion := version } := by
  have same_bindings : stored.serverBindings = now.store.serverBindings := by rw [commits.frame]
  constructor
  case finalizers =>
    change ∃ names, copy.metadata.finalizers = some names ∧ _
    rw [drafts.metadata]
    exact machine.finalizers_addFinalizer
  case unasked =>
    intro nameless classless
    obtain ⟨fails, ended, unclaimed⟩ := drafts.unasked nameless classless
    exact ⟨copy.isInvalid_iff.1 fails, ended, same_bindings.trans unclaimed⟩
  case asked =>
    intro asks
    have failure : copy.failure = machine.prepared.failure := drafts.asked asks
    change copy.failure.1 ≠ _ ∧ (_ → copy.failure = _)
    rw [failure]
    exact machine.failure_prepared
  case claimed =>
    intro nameless server binding free bound
    change stored.serverBindings.get? server = some binding at bound
    rw [same_bindings] at bound
    exact drafts.claimed nameless server binding free bound

/-- A pass over a machine that is not marked for deletion writes all or nothing. -/
theorem machinePass_allOrNothing
    (found : world.store.metalMachines.get? machine.key = some machine)
    (stays : machine.isDeleting = false) :
    AllOrNothing machine world ((machinePass machine.key).run world) := by
  obtain ⟨cluster, gated⟩ := gates_run_eq machine (world.seeing machine)
  constructor
  case nothing =>
    intro missing unmet
    have unmet : (world.seeing machine).store.firstUnmet? machine = some missing := unmet
    simp only [gate, unmet] at gated
    rw [machinePass_run_of_stays found stays gated]
    cases missing.answer machine <;> exact ⟨rfl, rfl, rfl⟩
  case all =>
    intro met
    have met : (world.seeing machine).store.firstUnmet? machine = none := met
    simp only [gate, met] at gated
    rw [machinePass_run_of_stays found stays gated]
    have drafts := allocate_drafts machine cluster (world.seeing machine)
    match worked : (allocate machine cluster).run (world.seeing machine) with
    | ((result, copy), now) =>
    rw [worked] at drafts
    have found : (world.seeing machine).store.metalMachines.get? machine.key = some machine :=
      found
    obtain ⟨stored, ran, commits⟩ := withCommit_commits found stays (allocate · cluster) worked
      drafts.metalMachines drafts.metadata drafts.status
    obtain ⟨version, own⟩ := commits.own
    dsimp only
    rw [ran]
    exact ⟨_, own, drafts.committed commits version⟩

/-- A store that takes no more bindings, with a machine that wants a server of a class. -/
def depleted : Store :=
  ((Laboratory.store ["s"]).addMetalMachine
    (Laboratory.machine "a" { serverClassRef := some (.ofName "pool") })).failBindingCreates "quota"

/-- That machine as it is stored. -/
def depletedMachine : MetalMachine :=
  { Laboratory.machine "a" { serverClassRef := some (.ofName "pool") } with
    metadata := { (Laboratory.machine "a" {}).metadata with
      resourceVersion := some "3"
      uid := some (Text.uuid 0) } }

/-- The pass fails, and the finalizer is stored. -/
theorem machinePass_allOrNothing_depleted :
    depleted.metalMachines.get? depletedMachine.key = some depletedMachine ∧
    depletedMachine.isDeleting = false ∧ depleted.firstUnmet? depletedMachine = none ∧
    ((machinePass (Laboratory.key "a")).run (Laboratory.surroundings depleted {})).1 =
      .error (.store (.invalidRequest "quota")) ∧
    ∃ last names, ((machinePass (Laboratory.key "a")).run
        (Laboratory.surroundings depleted {})).2.store.metalMachines.get? (Laboratory.key "a") =
          some last ∧
      last.metadata.finalizers = some names ∧ MetalMachine.finalizer ∈ names := by
  have met : depleted.firstUnmet? depletedMachine = none := by decide +kernel
  have writes : AllOrNothing depletedMachine (Laboratory.surroundings depleted {}) _ :=
    machinePass_allOrNothing rfl rfl
  obtain ⟨last, stored, committed⟩ := writes.all met
  obtain ⟨names, finalizers, among, _⟩ := committed.finalizers
  exact ⟨rfl, rfl, met, by decide +kernel, last, names, stored, finalizers, among⟩

end BareMetal
