import BareMetal.Proofs.Claim.Exposure
import BareMetal.Proofs.Pass.Working

/-!
# What a whole pass does to its machine

A pass over a machine that is not marked for deletion leaves everything as it is if the gates do not
let the machine through.  Otherwise it works on a copy in one of the ways there are, and commits the
copy.
-/

namespace BareMetal

open Store

variable {world : Surroundings} {machine copy stored : MetalMachine} {key : ObjectKey}

/-! ## Commits -/

/-- A copy of a machine was written back, with a new version if it differed. -/
structure Commits (machine copy : MetalMachine) (before after : Store) : Prop where
  /-- The machine is the copy now. -/
  own : ∃ version, after.metalMachines.get? machine.key =
    some { copy with metadata.resourceVersion := version }
  /-- Nothing but machines was written. -/
  frame : after = { before with version := after.version, metalMachines := after.metalMachines }
  /-- Something was written exactly if the copy differed. -/
  eq_iff : after = before ↔ copy = machine

theorem MetalMachine.metadata_addFinalizer (machine : MetalMachine) :
    machine.addFinalizer.metadata =
      { machine.metadata with finalizers := machine.addFinalizer.metadata.finalizers } := by
  unfold addFinalizer
  split <;> rfl

theorem commitMachineStatus_run (found : world.store.metalMachines.get? copy.key = some stored)
    (differ : machine.status ≠ copy.status) : (commitMachineStatus machine copy).run world =
      (.ok (), world.withStore (world.store.withMachine copy.key
        (world.store.machineWithStatus stored copy.currentStatus))) := by
  unfold commitMachineStatus
  rw [if_neg differ, Pass.run_call_bind, perform]
  unfold updateMetalMachineStatus
  rw [found]
  rfl

theorem updateMetalMachine_run {store : Store}
    (found : store.metalMachines.get? copy.key = some machine)
    (stays : machine.isDeleting = false)
    (version : copy.metadata.resourceVersion = machine.metadata.resourceVersion) :
    store.updateMetalMachine copy = (.ok (store.updatedMachine machine copy),
      store.withMachine copy.key (store.updatedMachine machine copy)) := by
  have current : isStale machine copy.metadata.resourceVersion = false := by
    rw [version]
    exact isStale_self machine
  have remains : isReleased (store.updatedMachine machine copy) = false := by
    have stays_too : (store.updatedMachine machine copy).isDeleting = false := stays
    rw [isReleased, stays_too, Bool.false_and]
  rw [updateMetalMachine_eq, found]
  dsimp only
  rw [current, if_neg Bool.false_ne_true, remains, if_neg Bool.false_ne_true]
  rfl

/-- A status that is new is there. -/
theorem some_currentStatus (status : copy.status = machine.status ∨ copy.status.isSome = true)
    (differ : machine.status ≠ copy.status) : some copy.currentStatus = copy.status := by
  rcases status with same | there
  · exact absurd same.symm differ
  · obtain ⟨now, found⟩ := Option.isSome_iff_exists.1 there
    rw [MetalMachine.currentStatus, found]
    rfl

theorem Commits.of_written {before after : Store}
    (own : ∃ version, after.metalMachines.get? machine.key =
      some { copy with metadata.resourceVersion := version })
    (frame : after = { before with version := after.version, metalMachines := after.metalMachines })
    (newer : before.version < after.version) (differs : copy ≠ machine) :
    Commits machine copy before after := by
  refine ⟨own, frame, iff_of_false ?_ differs⟩
  intro same
  rw [same] at newer
  exact Nat.lt_irrefl _ newer

section

variable (found : world.store.metalMachines.get? machine.key = some machine)
  (stays : machine.isDeleting = false) (metadata : copy.metadata = machine.addFinalizer.metadata)

include metadata

theorem key_eq_of_metadata : copy.key = machine.key := by
  rw [MetalMachine.key, metadata, ← MetalMachine.key, MetalMachine.key_addFinalizer]

/-- A copy that is written without its status. -/
theorem updatedMachine_eq (store : Store) : store.updatedMachine machine copy =
    { copy with
      metadata.resourceVersion := some store.nextVersion
      status := machine.status } := by
  rw [MetalMachine.metadata_addFinalizer] at metadata
  rw [updatedMachine, metadata]

theorem metadata_eq_of_finalizers
    (same : machine.metadata.finalizers = copy.metadata.finalizers) :
    copy.metadata = machine.metadata := by
  rw [metadata] at same ⊢
  rw [MetalMachine.metadata_addFinalizer, ← same]

include found

/-- A copy that differs in the status only is written with one call. -/
theorem commitMachineStatus_commits (spec : copy.spec = machine.spec)
    (finalizers : machine.metadata.finalizers = copy.metadata.finalizers)
    (status : copy.status = machine.status ∨ copy.status.isSome = true) :
    ∃ later, (commitMachineStatus machine copy).run world = (.ok (), world.withStore later) ∧
      Commits machine copy world.store later := by
  have same_key := key_eq_of_metadata metadata
  have same_metadata := metadata_eq_of_finalizers metadata finalizers
  by_cases same : machine.status = copy.status
  · have same_machine : copy = machine := by
      cases copy
      cases machine
      simp_all
    subst same_machine
    refine ⟨world.store, ?_, ⟨_, found⟩, rfl, iff_of_true rfl rfl⟩
    rw [commitMachineStatus_of_eq rfl]
    rfl
  · rw [← same_key] at found
    refine ⟨_, commitMachineStatus_run found same, ?_⟩
    have reported := some_currentStatus status same
    apply Commits.of_written
    · refine ⟨some world.store.nextVersion, ?_⟩
      rw [← same_key]
      refine (Dict.get?_insert_self _ _ _).trans ?_
      rw [machineWithStatus, reported, ← spec, ← same_metadata]
    · rfl
    · exact Nat.lt_succ_self _
    · rintro rfl
      exact same rfl

include stays

theorem commitMachine_commits (status : copy.status = machine.status ∨ copy.status.isSome = true) :
    ∃ later, (commitMachine machine copy).run world = (.ok (), world.withStore later) ∧
      Commits machine copy world.store later := by
  have same_key := key_eq_of_metadata metadata
  unfold commitMachine
  cases changed : machine.bodyChanged copy with
  | false =>
      obtain ⟨finalizers, spec⟩ := MetalMachine.bodyChanged_eq_false_iff.1 changed
      exact commitMachineStatus_commits found metadata spec.symm finalizers status
  | true =>
      have differs : copy ≠ machine := by
        rintro rfl
        simp [MetalMachine.bodyChanged] at changed
      have version : copy.metadata.resourceVersion = machine.metadata.resourceVersion := by
        rw [metadata, MetalMachine.metadata_addFinalizer]
      have updated := updateMetalMachine_run (same_key.symm ▸ found) stays version
      rw [if_pos rfl, Pass.run_call_bind, perform, updated]
      dsimp only
      by_cases same : machine.status = copy.status
      · rw [commitMachineStatus_of_eq same]
        refine ⟨_, rfl, .of_written ?_ rfl (Nat.lt_succ_self _) differs⟩
        refine ⟨some world.store.nextVersion, ?_⟩
        rw [← same_key]
        refine (Dict.get?_insert_self _ _ _).trans ?_
        rw [updatedMachine_eq metadata, same]
      · have found_now : (world.withStore (world.store.withMachine copy.key
            (world.store.updatedMachine machine copy))).store.metalMachines.get? copy.key =
              some (world.store.updatedMachine machine copy) := Dict.get?_insert_self _ _ _
        rw [commitMachineStatus_run found_now same]
        refine ⟨_, rfl, .of_written ?_ rfl (Nat.lt_add_of_pos_right Nat.two_pos) differs⟩
        refine ⟨some (nextVersion (world.store.withMachine copy.key
          (world.store.updatedMachine machine copy))), ?_⟩
        rw [← same_key]
        refine (Dict.get?_insert_self _ _ _).trans ?_
        rw [machineWithStatus, some_currentStatus status same, updatedMachine_eq metadata]
        rfl

end

/-! ## Copies -/

section

variable {store later : Store} {nodes nodes' : Nodes} {now : Timestamp}

theorem MetalMachine.status_prepared (machine : MetalMachine) :
    machine.prepared.status = machine.status ∨ machine.prepared.status.isSome = true := by
  unfold prepared clearInvalid
  split
  · exact .inr rfl
  · exact .inl machine.status_addFinalizer

theorem Works.metadata (works : Works store nodes now machine copy later nodes') :
    copy.metadata = machine.addFinalizer.metadata := by
  cases works with
  | invalid => rfl
  | refused | claims | unserved => exact machine.metadata_prepared
  | allocates | waits | reports => exact machine.metadata_prepared

theorem Works.status (works : Works store nodes now machine copy later nodes') :
    copy.status = machine.status ∨ copy.status.isSome = true := by
  cases works with
  | invalid | reports => exact .inr rfl
  | refused | claims | unserved | allocates | waits => exact machine.status_prepared

/-- Work leaves the metal machines to the commit. -/
theorem Works.metalMachines (works : Works store nodes now machine copy later nodes') :
    later.metalMachines = store.metalMachines := by
  cases works <;> rfl

end

/-! ## Passes -/

/-- The surroundings of an allocator that just saw a machine. -/
def Surroundings.seeing (world : Surroundings) (machine : MetalMachine) : Surroundings :=
  world.withIndex (world.memory.index.learn (.machineSeen machine))

theorem gates_run (key : ObjectKey) (machine : MetalMachine) (world : Surroundings) :
    ((gates key machine).run.run world).2 = world := by
  unfold gates
  split
  · rfl
  · rename_i ownerKey _
    rw [Attempt.run_get_bind _ world fun _ => rfl]
    cases world.store.machines.get? ownerKey with
    | none => rfl
    | some owner =>
        simp only [Store.found]
        unfold ownerGates
        split
        · rfl
        · rename_i name _
          rw [Attempt.run_get_bind _ world fun _ => rfl]
          cases world.store.clusters.get? ⟨key.space, name⟩ <;> rfl

theorem gates_passed_iff (machine : MetalMachine) (world : Surroundings) :
    (∃ cluster, ((gates machine.key machine).run.run world).1 = .ok (.passed cluster)) ↔
      world.store.Admits machine :=
  ((gates_alone machine world.store).run trivial).2

section

variable (found : world.store.metalMachines.get? machine.key = some machine)
  (stays : machine.isDeleting = false)

include found stays

/-- Work that leaves the stored machines alone is committed, and the pass ends as the work did. -/
theorem withCommit_commits
    (work : MetalMachine → Pass (Except PassError Outcome × MetalMachine))
    {result : Except PassError Outcome} {now : Surroundings}
    (worked : (work machine).run world = ((result, copy), now))
    (metalMachines : now.store.metalMachines = world.store.metalMachines)
    (metadata : copy.metadata = machine.addFinalizer.metadata)
    (status : copy.status = machine.status ∨ copy.status.isSome = true) : ∃ later,
      (withCommit machine work).run world = (result, now.withStore later) ∧
        Commits machine copy now.store later := by
  have found_now : now.store.metalMachines.get? machine.key = some machine := by
    rw [metalMachines]
    exact found
  obtain ⟨later, committed, commits⟩ := commitMachine_commits found_now stays metadata status
  have same_result : settled result (.ok ()) = result := by cases result <;> rfl
  have ran := withCommit_run worked committed
  rw [same_result] at ran
  exact ⟨later, ran, commits⟩

theorem machinePass_run_of_stays {result : Except PassError Gate}
    (gated : ((gates machine.key machine).run.run (world.seeing machine)).1 = result) :
    (machinePass machine.key).run world =
      (match result with
        | .error error => pure (.error error)
        | .ok (.closed reason) => pure (.ok (.requeue reason))
        | .ok (.passed cluster) => withCommit machine (allocate · cluster) : Pass _).run
          (world.seeing machine) := by
  unfold machinePass
  refine (Pass.run_get_bind _ world fun _ => rfl).trans ?_
  rw [found]
  change (currentMachinePass machine.key machine).run (world.seeing machine) = _
  unfold currentMachinePass
  rw [if_neg (by simp [stays])]
  exact Pass.run_bind_of (Prod.ext gated (gates_run machine.key machine _))

/-- A pass over a machine that is not admitted changes no object and no node. -/
theorem machinePass_shut (shut : ¬world.store.Admits machine) :
    ((machinePass machine.key).run world).2.store = world.store ∧
      ((machinePass machine.key).run world).2.nodes = world.nodes := by
  have admits_iff := gates_passed_iff machine (world.seeing machine)
  match gated : ((gates machine.key machine).run.run (world.seeing machine)).1 with
  | .error error =>
      rw [machinePass_run_of_stays found stays gated]
      exact ⟨rfl, rfl⟩
  | .ok (.closed reason) =>
      rw [machinePass_run_of_stays found stays gated]
      exact ⟨rfl, rfl⟩
  | .ok (.passed cluster) => exact absurd (admits_iff.1 ⟨cluster, gated⟩) shut

/-- A pass over a machine that is admitted works on a copy of it, commits the copy, and ends as the
work did. -/
theorem machinePass_run_of_admitted (named : world.store.NamesBindings)
    (admitted : world.store.Admits machine) : ∃ cluster result copy now later,
      (allocate machine cluster).run (world.seeing machine) = ((result, copy), now) ∧
      Works world.store world.nodes (world.clock.shows world.clock.readings) machine copy now.store
        now.nodes ∧
      Commits machine copy now.store later ∧
      (machinePass machine.key).run world = (result, now.withStore later) := by
  obtain ⟨cluster, gated⟩ := (gates_passed_iff machine (world.seeing machine)).2 admitted
  have worked : Worked (world.seeing machine) machine
      ((allocate machine cluster).run (world.seeing machine)) :=
    allocate_worked (world.seeing machine) named machine cluster
  rw [machinePass_run_of_stays found stays gated]
  match ended : (allocate machine cluster).run (world.seeing machine) with
  | ((result, copy), now) =>
  rw [ended] at worked
  have found : (world.seeing machine).store.metalMachines.get? machine.key = some machine := found
  obtain ⟨later, ran, commits⟩ := withCommit_commits found stays (allocate · cluster) ended
    worked.metalMachines worked.metadata worked.status
  exact ⟨cluster, result, copy, now, later, ended, worked, commits, ran⟩

theorem machinePass_admitted (named : world.store.NamesBindings)
    (admitted : world.store.Admits machine) : ∃ copy store,
      Works world.store world.nodes (world.clock.shows world.clock.readings) machine copy store
        ((machinePass machine.key).run world).2.nodes ∧
      Commits machine copy store ((machinePass machine.key).run world).2.store := by
  obtain ⟨_, _, copy, now, _, _, works, commits, ran⟩ :=
    machinePass_run_of_admitted found stays named admitted
  rw [ran]
  exact ⟨copy, now.store, works, commits⟩

end

end BareMetal
