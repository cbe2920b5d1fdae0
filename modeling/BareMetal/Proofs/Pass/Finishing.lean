import BareMetal.Proofs.Claim.Turning
import BareMetal.Proofs.Store.Contract

/-!
# How a pass is finished

A pass over a machine works on a copy of what it read, and others may have written the machine, or
removed it, before the copy is committed.  Finalizers and request are written under the guard of
the version that was read, and nothing at all is written if the guard fails.  A new status is
written behind them, and written without a guard if nothing else changed.
-/

namespace BareMetal

open Store

/-! ## Copies and what others did -/

namespace MetalMachine

/-- A copy of a machine whose finalizers, request and status may have been changed. -/
def IsDraftOf (copy machine : MetalMachine) : Prop :=
  copy.metadata = { machine.metadata with finalizers := copy.metadata.finalizers }

/-- Two machines have the same finalizers and ask for the same. -/
def SharesBody (copy machine : MetalMachine) : Prop :=
  copy.metadata.finalizers = machine.metadata.finalizers ∧ copy.spec = machine.spec

variable {machine copy : MetalMachine}

theorem IsDraftOf.key_eq (draft : copy.IsDraftOf machine) : copy.key = machine.key := by
  rw [key, draft]
  rfl

theorem IsDraftOf.resourceVersion_eq (draft : copy.IsDraftOf machine) :
    copy.metadata.resourceVersion = machine.metadata.resourceVersion := by
  rw [draft]

theorem IsDraftOf.deletionTimestamp_eq (draft : copy.IsDraftOf machine) :
    copy.metadata.deletionTimestamp = machine.metadata.deletionTimestamp := by
  rw [draft]

theorem bodyChanged_iff : machine.bodyChanged copy = true ↔ ¬copy.SharesBody machine := by
  rw [← Bool.not_eq_false, bodyChanged_eq_false_iff, SharesBody, eq_comm, eq_comm (a := copy.spec)]

end MetalMachine

/-- A machine that is found with the version with which it was read is what was read. -/
theorem Operation.Reads.eq_of_version {front between : List Operation} {read : Operation}
    {machine stored : MetalMachine} (reads : read.Reads (afterAll {} front) machine)
    (found : (afterAll {} (front ++ read :: between)).metalMachines.get? machine.key = some stored)
    (version : stored.metadata.resourceVersion = machine.metadata.resourceVersion) :
    stored = machine := by
  have arises := Arises.empty.afterAll front
  obtain ⟨found_first, unchanged⟩ := reads.get? arises
  obtain ⟨number, bound, issued⟩ := arises.wellKept.machine_version _ machine found_first
  rw [afterAll_append, afterAll_cons, unchanged] at found
  have numbered : ((afterAll {} front).afterAll between).versionAt? (.metalMachine machine.key) =
      some (some (toString number)) := by
    simp [versionAt?, found, version, issued]
  have kept := get?_afterAll fun before operation rest split =>
    not_written_of_version bound numbered split
  exact Option.some.inj (found.symm.trans (kept.trans found_first))

/-! ## Commits -/

/-- Nothing of a store was touched but the machine of a key, which is as given now, or gone. -/
structure Store.Replaces (before : Store) (key : ObjectKey) (present : Option MetalMachine)
    (after : Store) : Prop where
  /-- This is what lies under the key. -/
  own : after.metalMachines.get? key = present
  /-- All other machines are the same. -/
  others : ∀ other, other ≠ key →
    after.metalMachines.get? other = before.metalMachines.get? other
  /-- Nothing but machines was written. -/
  frame : after = { before with version := after.version, metalMachines := after.metalMachines }

theorem replaces_withMachine (store : Store) (key : ObjectKey) (machine : MetalMachine) :
    store.Replaces key (some machine) (store.withMachine key machine) where
  own := Dict.get?_insert_self _ _ _
  others _ apart := Dict.get?_insert_of_ne apart _ _
  frame := rfl

theorem replaces_withoutMachine (store : Store) (key : ObjectKey) :
    store.Replaces key none (store.withoutMachine key) where
  own := Dict.get?_erase_self _ _
  others _ apart := Dict.get?_erase_of_ne apart _
  frame := rfl

theorem Store.Replaces.trans {first second third : Store} {key : ObjectKey}
    {between present : Option MetalMachine} (earlier : first.Replaces key between second)
    (later : second.Replaces key present third) : first.Replaces key present third where
  own := later.own
  others other apart := (later.others other apart).trans (earlier.others other apart)
  frame := by rw [later.frame, earlier.frame]

/-- How the commit of the copy of a machine ends, and what it does to the store. -/
inductive CommitEnds (machine copy : MetalMachine) (before : Store) :
    Except StoreError Unit → Store → Prop
  /-- Nothing changed in the copy, and nothing is written. -/
  | unchanged (body : copy.SharesBody machine) (status : copy.status = machine.status) :
      CommitEnds machine copy before (.ok ()) before
  /-- Finalizers or request changed, but the machine is gone. -/
  | gone (body : ¬copy.SharesBody machine)
      (absent : before.metalMachines.get? machine.key = none) :
      CommitEnds machine copy before
        (.error (.notFound ("MetalMachine " ++ machine.key.display))) before
  /-- Finalizers or request changed, but the machine has another version. -/
  | overtaken {stored : MetalMachine} (body : ¬copy.SharesBody machine)
      (found : before.metalMachines.get? machine.key = some stored)
      (version : stored.metadata.resourceVersion ≠ machine.metadata.resourceVersion) :
      CommitEnds machine copy before
        (.error (.conflict ("MetalMachine " ++ machine.key.display))) before
  /-- Finalizers or request changed, and the machine, which is marked for deletion, goes with its
  last finalizer. -/
  | removed {stored : MetalMachine} {after : Store} (body : ¬copy.SharesBody machine)
      (found : before.metalMachines.get? machine.key = some stored)
      (version : stored.metadata.resourceVersion = machine.metadata.resourceVersion)
      (deleting : stored.metadata.deletionTimestamp.isSome)
      (bare : copy.metadata.finalizers.getD [] = [])
      (replaces : before.Replaces machine.key none after) :
      CommitEnds machine copy before (.ok ()) after
  /-- Finalizers or request changed, and they are written together with a changed status. -/
  | written {stored : MetalMachine} {after : Store} (body : ¬copy.SharesBody machine)
      (found : before.metalMachines.get? machine.key = some stored)
      (version : stored.metadata.resourceVersion = machine.metadata.resourceVersion)
      (stays : ¬(stored.metadata.deletionTimestamp.isSome ∧
        copy.metadata.finalizers.getD [] = []))
      (replaces : before.Replaces machine.key
        (some { stored with
          metadata.finalizers := copy.metadata.finalizers
          metadata.resourceVersion := some (toString after.version)
          spec := copy.spec
          status :=
            if copy.status = machine.status then stored.status else some (copy.status.getD {}) })
        after) :
      CommitEnds machine copy before (.ok ()) after
  /-- Only the status changed, and it is written whatever the version. -/
  | reported {stored : MetalMachine} {after : Store} (body : copy.SharesBody machine)
      (status : copy.status ≠ machine.status)
      (found : before.metalMachines.get? machine.key = some stored)
      (replaces : before.Replaces machine.key
        (some { stored with
          metadata.resourceVersion := some (toString after.version)
          status := some (copy.status.getD {}) })
        after) :
      CommitEnds machine copy before (.ok ()) after
  /-- Only the status changed, and the machine is gone as it may be. -/
  | excused (body : copy.SharesBody machine) (status : copy.status ≠ machine.status)
      (absent : before.metalMachines.get? machine.key = none)
      (deleting : copy.metadata.deletionTimestamp.isSome)
      (released : MetalMachine.finalizer ∉ copy.metadata.finalizers.getD []) :
      CommitEnds machine copy before (.ok ()) before
  /-- Only the status changed, and the machine is gone although it should not. -/
  | missed (body : copy.SharesBody machine) (status : copy.status ≠ machine.status)
      (absent : before.metalMachines.get? machine.key = none)
      (expected : ¬(copy.metadata.deletionTimestamp.isSome ∧
        MetalMachine.finalizer ∉ copy.metadata.finalizers.getD [])) :
      CommitEnds machine copy before
        (.error (.notFound ("MetalMachine " ++ machine.key.display))) before

variable {machine copy stored : MetalMachine} {world : Surroundings}

/-- A status that nobody can take is no error if the machine may have gone with its finalizer. -/
theorem commitMachineStatus_run_of_gone
    (absent : world.store.metalMachines.get? copy.key = none)
    (differ : machine.status ≠ copy.status) :
    (commitMachineStatus machine copy).run world =
      (if copy.isDeleting && !copy.hasFinalizer then .ok ()
        else .error (.notFound ("MetalMachine " ++ copy.key.display)), world) := by
  unfold commitMachineStatus
  rw [if_neg differ, Pass.run_call_bind, perform]
  unfold updateMetalMachineStatus
  rw [absent]
  rfl

theorem commitMachine_of_sharesBody (body : copy.SharesBody machine) :
    commitMachine machine copy = commitMachineStatus machine copy := by
  unfold commitMachine
  rw [if_neg]
  rw [MetalMachine.bodyChanged_iff]
  exact fun changed => changed body

theorem isExcused_iff : (copy.isDeleting && !copy.hasFinalizer) = true ↔
    copy.metadata.deletionTimestamp.isSome ∧
      MetalMachine.finalizer ∉ copy.metadata.finalizers.getD [] := by
  cases finalizers : copy.metadata.finalizers <;>
    simp [MetalMachine.isDeleting, MetalMachine.hasFinalizer, finalizers]

/-- A commit ends as it should if only the status changed. -/
theorem commitMachine_ends_of_sharesBody (draft : copy.IsDraftOf machine)
    (body : copy.SharesBody machine) : ∃ committed later,
      (commitMachine machine copy).run world = (committed, world.withStore later) ∧
        CommitEnds machine copy world.store committed later := by
  rw [commitMachine_of_sharesBody body]
  by_cases status : copy.status = machine.status
  · rw [commitMachineStatus_of_eq status.symm]
    exact ⟨_, _, rfl, .unchanged body status⟩
  · cases found : world.store.metalMachines.get? machine.key with
    | some stored =>
        rw [← draft.key_eq] at found
        refine ⟨_, _, commitMachineStatus_run found (Ne.symm status), ?_⟩
        rw [draft.key_eq] at found ⊢
        exact .reported body status found (replaces_withMachine _ _ _)
    | none =>
        rw [← draft.key_eq] at found
        rw [commitMachineStatus_run_of_gone found (Ne.symm status)]
        rw [draft.key_eq] at found ⊢
        split
        · rename_i excused
          obtain ⟨deleting, released⟩ := isExcused_iff.1 excused
          exact ⟨_, _, rfl, .excused body status found deleting released⟩
        · rename_i unexcused
          rw [isExcused_iff] at unexcused
          exact ⟨_, _, rfl, .missed body status found unexcused⟩

/-- A commit of changed finalizers or a changed request starts with the guarded write, and goes on
with the status if that is accepted. -/
theorem commitMachine_run_of_changed (body : ¬copy.SharesBody machine) :
    (commitMachine machine copy).run world =
      match world.store.updateMetalMachine copy with
      | (.error error, later) => (.error error, world.withStore later)
      | (.ok _, later) => (commitMachineStatus machine copy).run (world.withStore later) := by
  unfold commitMachine
  rw [if_pos (MetalMachine.bodyChanged_iff.2 body), Pass.run_call_bind, perform]
  rcases world.store.updateMetalMachine copy with ⟨reply, later⟩
  cases reply <;> rfl

section

variable (draft : copy.IsDraftOf machine) (body : ¬copy.SharesBody machine)

include draft body

/-- A machine that goes with its last finalizer takes no status any more, which is no error. -/
theorem commitMachineStatus_ends_of_removed
    (found : world.store.metalMachines.get? machine.key = some machine)
    (released : isReleased (world.store.updatedMachine machine copy) = true) :
    ∃ committed later, (commitMachineStatus machine copy).run
        (world.withStore (world.store.withoutMachine machine.key)) =
        (committed, world.withStore later) ∧
      CommitEnds machine copy world.store committed later := by
  obtain ⟨deleting, bare⟩ := isReleased_iff.1 released
  refine ⟨.ok (), _, ?_, .removed body found rfl deleting bare (replaces_withoutMachine _ _)⟩
  by_cases status : machine.status = copy.status
  · rw [commitMachineStatus_of_eq status]
    rfl
  · have absent : (world.store.withoutMachine machine.key).metalMachines.get? copy.key = none := by
      rw [draft.key_eq]
      exact Dict.get?_erase_self _ _
    have excused : (copy.isDeleting && !copy.hasFinalizer) = true := by
      rw [isExcused_iff, draft.deletionTimestamp_eq]
      exact ⟨deleting, fun listed => List.not_mem_nil (bare ▸ listed)⟩
    rw [commitMachineStatus_run_of_gone absent status, if_pos excused]

/-- A machine that got new finalizers or a new request takes a new status behind them. -/
theorem commitMachineStatus_ends_of_written
    (found : world.store.metalMachines.get? machine.key = some machine)
    (stays : isReleased (world.store.updatedMachine machine copy) = false) :
    ∃ committed later, (commitMachineStatus machine copy).run (world.withStore
        (world.store.withMachine machine.key (world.store.updatedMachine machine copy))) =
        (committed, world.withStore later) ∧
      CommitEnds machine copy world.store committed later := by
  have remains := Bool.eq_false_iff.1 stays
  rw [Ne, isReleased_iff] at remains
  by_cases status : copy.status = machine.status
  · rw [commitMachineStatus_of_eq status.symm]
    refine ⟨_, _, rfl, .written body found rfl remains ?_⟩
    rw [if_pos status]
    exact replaces_withMachine _ _ _
  · have there := Dict.get?_insert_self world.store.metalMachines copy.key
      (world.store.updatedMachine machine copy)
    rw [← draft.key_eq]
    refine ⟨_, _, commitMachineStatus_run there (Ne.symm status), ?_⟩
    rw [draft.key_eq]
    refine .written body found rfl remains ?_
    rw [if_neg status]
    exact (replaces_withMachine _ _ _).trans (replaces_withMachine _ _ _)

/-- A commit ends as it should if more than the status changed, as long as the version tells
whether the machine is what was read. -/
theorem commitMachine_ends_of_changed (versioned : machine.metadata.resourceVersion.isSome = true)
    (told : ∀ stored, world.store.metalMachines.get? machine.key = some stored →
      stored.metadata.resourceVersion = machine.metadata.resourceVersion → stored = machine) :
    ∃ committed later, (commitMachine machine copy).run world = (committed, world.withStore later) ∧
      CommitEnds machine copy world.store committed later := by
  obtain ⟨number, numbered⟩ := Option.isSome_iff_exists.1 versioned
  rw [commitMachine_run_of_changed body, updateMetalMachine_eq, draft.key_eq,
    draft.resourceVersion_eq]
  cases found : world.store.metalMachines.get? machine.key with
  | none => exact ⟨_, _, rfl, .gone body found⟩
  | some stored =>
      by_cases version : stored.metadata.resourceVersion = machine.metadata.resourceVersion
      · obtain rfl := told stored found version
        simp only [isStale_self, Bool.false_eq_true, if_false]
        cases released : isReleased (world.store.updatedMachine stored copy) with
        | true => exact commitMachineStatus_ends_of_removed draft body found released
        | false => exact commitMachineStatus_ends_of_written draft body found released
      · have stale : isStale stored machine.metadata.resourceVersion = true :=
          isStale_iff.2 ⟨number, numbered, numbered ▸ version⟩
        simp only [stale, if_true]
        exact ⟨_, _, rfl, .overtaken body found version⟩

end

/-! ## Passes -/

/-- A pass over a machine that was read some time before ends with its own error, or else with that
of the commit, and the commit ends as it should whatever happened since. -/
theorem finishMachine_ends {α : Type} {front between : List Operation} {read : Operation}
    (reads : read.Reads (afterAll {} front) machine) (draft : copy.IsDraftOf machine)
    (now : world.store = afterAll {} (front ++ read :: between))
    (result : Except PassError α) :
    ∃ committed later outcome,
      (finishMachine machine copy result).run world = (outcome, world.withStore later) ∧
      CommitEnds machine copy world.store committed later ∧
      (∀ error, result = .error error → outcome = .error error) ∧
      (∀ value error, result = .ok value → committed = .error error →
        outcome = .error (.store error)) ∧
      (∀ value, result = .ok value → committed = .ok () → outcome = .ok value) := by
  obtain ⟨committed, later, ran, ends⟩ : ∃ committed later,
      (commitMachine machine copy).run world = (committed, world.withStore later) ∧
        CommitEnds machine copy world.store committed later := by
    by_cases body : copy.SharesBody machine
    · exact commitMachine_ends_of_sharesBody draft body
    · have arises := Arises.empty.afterAll front
      obtain ⟨number, -, numbered⟩ :=
        arises.wellKept.machine_version _ machine (reads.get? arises).1
      apply commitMachine_ends_of_changed draft body
      · simp [numbered]
      · intro stored found version
        exact reads.eq_of_version (now ▸ found) version
  refine ⟨committed, later, settled result committed, ?_, ends, ?_, ?_, ?_⟩
  · unfold finishMachine
    exact Pass.run_bind_of ran
  · rintro error rfl
    rfl
  · rintro value error rfl rfl
    rfl
  · rintro value rfl rfl
    rfl

namespace Laboratory

/-- The surroundings of an allocator after a machine was put in and read, and a server was put in
after that. -/
def disturbed : Surroundings := surroundings (afterAll {} reading) {}

end Laboratory

/-- A pass that holds its machine back is finished although a server was put in meanwhile. -/
theorem finishMachine_ends_disturbed :
    Operation.Reads (afterAll {} [.addMetalMachine (Laboratory.machine "m" {})])
      Laboratory.keptMachine (.call (.getMetalMachine (Laboratory.key "m"))) ∧
    Laboratory.heldBack.IsDraftOf Laboratory.keptMachine ∧
    Laboratory.disturbed.store = afterAll {} ([.addMetalMachine (Laboratory.machine "m" {})] ++
      .call (.getMetalMachine (Laboratory.key "m")) :: [.addServer (Laboratory.server "a")]) ∧
    ∃ committed later outcome,
      (finishMachine Laboratory.keptMachine Laboratory.heldBack (.ok Outcome.done)).run
        Laboratory.disturbed = (outcome, Laboratory.disturbed.withStore later) ∧
      CommitEnds Laboratory.keptMachine Laboratory.heldBack Laboratory.disturbed.store committed
        later ∧
      (committed = .ok () → outcome = .ok .done) := by
  have reads : Operation.Reads (afterAll {} [.addMetalMachine (Laboratory.machine "m" {})])
      Laboratory.keptMachine (.call (.getMetalMachine (Laboratory.key "m"))) := .get rfl
  have draft : Laboratory.heldBack.IsDraftOf Laboratory.keptMachine := rfl
  have now : Laboratory.disturbed.store =
      afterAll {} ([.addMetalMachine (Laboratory.machine "m" {})] ++
        .call (.getMetalMachine (Laboratory.key "m")) :: [.addServer (Laboratory.server "a")]) :=
    rfl
  obtain ⟨committed, later, outcome, ran, ends, -, -, succeeds⟩ :=
    finishMachine_ends reads draft now (.ok Outcome.done)
  exact ⟨reads, draft, now, committed, later, outcome, ran, ends, succeeds .done rfl⟩

namespace Laboratory

/-- The machine as a store keeps it if it was ready when it was put in. -/
def readyMachine : MetalMachine := { keptMachine with status := some { ready := true } }

/-- The machine is put in ready, and read; then somebody else holds it back. -/
def overtaking : List Operation :=
  [.addMetalMachine { Laboratory.machine "m" {} with status := some { ready := true } },
    .call (.getMetalMachine (key "m")),
    .call (.updateMetalMachine { readyMachine with metadata.finalizers := some ["metal"] })]

end Laboratory

/-- A status that is taken away in the copy leaves the empty one, and it is written over what
somebody else wrote, whose finalizers stay. -/
theorem status_taken_away_leaves_empty_one :
    let before := Laboratory.surroundings (afterAll {} Laboratory.overtaking) {}
    let ended := (finishMachine Laboratory.readyMachine Laboratory.keptMachine
      (.ok Outcome.done)).run before
    Operation.Reads (afterAll {} (Laboratory.overtaking.take 1)) Laboratory.readyMachine
      (.call (.getMetalMachine (Laboratory.key "m"))) ∧
    Laboratory.keptMachine.IsDraftOf Laboratory.readyMachine ∧
    ended.1 = .ok .done ∧
    ∃ stored, ended.2.store.metalMachines.get? (Laboratory.key "m") = some stored ∧
      Laboratory.keptMachine.status = none ∧ stored.status = some {} ∧
      Laboratory.keptMachine.metadata.finalizers = none ∧
      stored.metadata.finalizers = some ["metal"] := by
  intro before ended
  exact ⟨.get rfl, rfl, rfl, _, rfl, rfl, rfl, rfl, rfl⟩

end BareMetal
