import BareMetal.Proofs.Claim.Sequential
import BareMetal.Proofs.Fleet
import BareMetal.Proofs.Pass.Running

/-!
# How many passes a release takes

The index may know only some of the bindings of a machine, and as long as it knows any the others
are not looked for.  A pass that releases takes what it deletes out of the index as well, so that
the next one finds nothing there and lists all bindings.  After two passes all bindings of the
machine are gone, and the third lets go of the machine.
-/

namespace BareMetal

open Store

variable {world : Surroundings} {machine : MetalMachine} {key : ObjectKey} {name : String}

/-! ## What the index knows -/

namespace Index

theorem mem_of_mem_removeBinding {index : Index} {other : String}
    (member : name ∈ (index.removeBinding other).bindingsFor key) :
    name ∈ index.bindingsFor key :=
  mem_bindingsFor.2 (Dict.get?_erase_eq_some.1 (mem_bindingsFor.1 member)).2

end Index

theorem Store.mem_of_mem_forget {store : Store} {names : List String} {index : Index}
    (member : name ∈ (store.forget names index).bindingsFor key) :
    name ∈ index.bindingsFor key := by
  unfold forget at member
  induction names generalizing index with
  | nil => exact member
  | cons other rest ih =>
      have member := ih member
      dsimp only at member
      split at member
      · exact Index.mem_of_mem_removeBinding member
      · exact member

theorem Index.mem_of_mem_removeBindings {names : List String} {index : Index}
    (member : name ∈ (names.foldl Index.removeBinding index).bindingsFor key) :
    name ∈ index.bindingsFor key := by
  induction names generalizing index with
  | nil => exact member
  | cons other rest ih => exact Index.mem_of_mem_removeBinding (ih member)

/-! ## Deleting -/

namespace Store

/-- The store without the bindings of several names. -/
def withoutBindings (store : Store) (names : List String) : Store :=
  { store with serverBindings := names.foldl Dict.erase store.serverBindings }

theorem get?_withoutBindings {store : Store} {names : List String} {binding : ServerBinding} :
    (store.withoutBindings names).serverBindings.get? name = some binding ↔
      name ∉ names ∧ store.serverBindings.get? name = some binding := by
  unfold withoutBindings
  dsimp only
  generalize store.serverBindings = bindings
  induction names generalizing bindings with
  | nil => simp
  | cons other rest ih =>
      rw [List.foldl_cons, ih, Dict.get?_erase_eq_some, List.mem_cons, not_or]
      simp only [and_assoc, and_left_comm]

end Store

theorem deleteBindings_run (names : List String) (world : Surroundings) :
    (deleteBindings names).run.run world =
      (.ok (), (world.withStore (world.store.withoutBindings names)).withIndex
        (names.foldl Index.removeBinding world.memory.index)) := by
  induction names generalizing world with
  | nil => rfl
  | cons name rest ih =>
      exact ih ((world.withStore (world.store.withoutBindings [name])).withIndex
        (world.memory.index.removeBinding name))

/-- The name of the server that a machine names, if it holds that server. -/
def MetalMachine.ownServer (machine : MetalMachine) (store : Store) : List String :=
  machine.namedServer?.toList.filter fun server => (store.heldUnder? machine.key server).isSome

theorem heldNamedServer_run (machine : MetalMachine) (world : Surroundings) :
    (heldNamedServer machine).run.run world = (.ok (machine.ownServer world.store), world) := by
  unfold heldNamedServer MetalMachine.ownServer MetalMachine.namedServer?
  split
  · rename_i absent
    rw [absent]
    rfl
  · rename_i reference named
    rw [named]
    refine (Attempt.run_get_bind _ world fun _ => rfl).trans ?_
    cases found : world.store.serverBindings.get? reference.name with
    | none =>
        have none_held : world.store.heldUnder? machine.key reference.name = none := by
          rw [heldUnder?, found]
          rfl
        simp [none_held]
        rfl
    | some binding =>
        cases held : binding.isHeldBy machine.key <;>
          simp [Store.found, heldUnder?, found, held] <;> rfl

namespace Surroundings

/-- The names of the bindings that a release of a machine deletes. -/
def toRelease (world : Surroundings) (machine : MetalMachine) : List String :=
  sortedNames
    ((world.held machine.key).map ServerBinding.anyName ++ machine.ownServer world.store)

/-- The surroundings after a release deleted the bindings that it found. -/
def relieved (world : Surroundings) (machine : MetalMachine) : Surroundings :=
  (world.withStore (world.store.withoutBindings (world.toRelease machine))).withIndex
    ((world.toRelease machine).foldl Index.removeBinding (world.indexAfterLook machine.key))

end Surroundings

theorem deleteHeldBindings_run (machine : MetalMachine) (world : Surroundings) :
    (deleteHeldBindings machine).run.run world =
      (.ok (!(world.toRelease machine).isEmpty), world.relieved machine) := by
  unfold deleteHeldBindings
  refine (Attempt.run_bind_of_ok (heldBindings_run machine.key world)).trans ?_
  refine (Attempt.run_bind_of_ok (heldNamedServer_run machine _)).trans ?_
  exact Attempt.run_bind_of_ok (deleteBindings_run _ _)

/-! ## What a release deletes -/

section

variable (named : world.store.NamesBindings)

include named

/-- A release deletes nothing but bindings of its machine. -/
theorem Surroundings.heldUnder?_of_mem_toRelease (member : name ∈ world.toRelease machine) :
    ∃ binding, world.store.heldUnder? machine.key name = some binding := by
  rcases List.mem_append.1 (mem_sortedNames.1 member) with found | own
  · obtain ⟨binding, among, rfl⟩ := List.mem_map.1 found
    obtain ⟨stored, holds⟩ := heldUnder?_of_mem_held among
    rw [named stored binding (heldUnder?_eq_some_iff.1 holds).1]
    exact ⟨binding, holds⟩
  · exact Option.isSome_iff_exists.1 (List.mem_filter.1 own).2

theorem Surroundings.mem_toRelease_of_mem_held {binding : ServerBinding}
    (member : binding ∈ world.held machine.key)
    (found : world.store.serverBindings.get? name = some binding) :
    name ∈ world.toRelease machine := by
  refine mem_sortedNames.2 (List.mem_append_left _ (List.mem_map.2 ⟨binding, member, ?_⟩))
  exact named name binding found

/-- A release that deletes nothing found a machine that holds nothing. -/
theorem Surroundings.holdsNothing_of_toRelease (nothing : world.toRelease machine = []) :
    world.store.HoldsNothing machine.key := by
  refine held_eq_nil_iff.1 (List.eq_nil_iff_forall_not_mem.2 fun binding member => ?_)
  obtain ⟨name, found⟩ := heldUnder?_of_mem_held member
  have listed := mem_toRelease_of_mem_held named member (heldUnder?_eq_some_iff.1 found).1
  exact List.not_mem_nil (nothing ▸ listed)

/-- If the index knows no binding of the machine, the release deletes them all. -/
theorem Surroundings.holdsNothing_relieved (machine : MetalMachine)
    (unknown : world.known machine.key = []) :
    (world.relieved machine).store.HoldsNothing machine.key := by
  intro name binding found
  obtain ⟨stays, stored⟩ := get?_withoutBindings.1 found
  refine Bool.eq_false_iff.2 fun holds => stays ?_
  have member := mem_held_of_unknown unknown (heldUnder?_eq_some_iff.2 ⟨stored, holds⟩)
  exact mem_toRelease_of_mem_held named member stored

/-- If the index knows a binding of the machine, it knows none any more after the release. -/
theorem Surroundings.known_relieved (knows : world.known machine.key ≠ []) :
    (world.relieved machine).known machine.key = [] := by
  refine List.eq_nil_iff_forall_not_mem.2 fun binding member => ?_
  obtain ⟨name, known, found⟩ := mem_known.1 member
  obtain ⟨stored, holds⟩ := heldUnder?_eq_some_iff.1 found
  obtain ⟨stays, stored⟩ := get?_withoutBindings.1 stored
  have known_before : name ∈ world.memory.index.bindingsFor machine.key := by
    have known := Index.mem_of_mem_removeBindings known
    unfold indexAfterLook at known
    rw [if_neg (by simpa using knows)] at known
    exact mem_of_mem_forget known
  refine stays (mem_toRelease_of_mem_held named (mem_held_of_known ?_) stored)
  exact mem_known.2 ⟨name, known_before, heldUnder?_eq_some_iff.2 ⟨stored, holds⟩⟩

end

theorem release_run (machine : MetalMachine) (world : Surroundings) :
    (release machine).run world =
      (if world.toRelease machine = [] then (.ok .done, machine.released)
        else (.ok (.requeue .bindingReleasing), machine), world.relieved machine) := by
  unfold release
  refine (Pass.run_bind_of (deleteHeldBindings_run machine world)).trans ?_
  cases world.toRelease machine <;> rfl

/-! ## One pass -/

/-- What is left of the finalizers of a machine that was released. -/
def MetalMachine.otherFinalizers (machine : MetalMachine) : List String :=
  (machine.metadata.finalizers.getD []).filter (· != MetalMachine.finalizer)

/-- The store after a machine was released that holds nothing: the machine goes, or it stays without
the finalizer and names no server. -/
def Store.withReleased (store : Store) (machine : MetalMachine) : Store :=
  if machine.otherFinalizers = [] then store.withoutMachine machine.key
  else store.withMachine machine.key
    { machine with
      metadata.finalizers := some machine.otherFinalizers
      metadata.resourceVersion := some store.nextVersion
      spec.serverRef := none }

section

variable (found : world.store.metalMachines.get? machine.key = some machine)
  (deleting : machine.isDeleting = true) (guarded : machine.hasFinalizer = true)

include found deleting guarded

theorem updateMetalMachine_released :
    world.store.updateMetalMachine machine.released =
      (.ok (world.store.updatedMachine machine machine.released),
        world.store.withReleased machine) := by
  have same_key : machine.released.key = machine.key := rfl
  have current : isStale machine machine.released.metadata.resourceVersion = false :=
    isStale_self machine
  have left : machine.released.metadata.finalizers = some machine.otherFinalizers := by
    obtain ⟨names, listed, _⟩ := (Option.any_eq_true _ _).1 guarded
    simp [MetalMachine.released, MetalMachine.removeFinalizer, MetalMachine.otherFinalizers,
      listed]
  have goes_iff : isReleased (world.store.updatedMachine machine machine.released) = true ↔
      machine.otherFinalizers = [] := by
    have marked : (world.store.updatedMachine machine machine.released).isDeleting = true :=
      deleting
    have listed : (world.store.updatedMachine machine machine.released).metadata.finalizers =
        some machine.otherFinalizers := left
    simp [isReleased, marked, listed]
  rw [updateMetalMachine_eq, same_key, found]
  dsimp only
  rw [current, if_neg Bool.false_ne_true]
  unfold withReleased
  split
  · rename_i none_left
    rw [if_pos (goes_iff.1 none_left)]
    rfl
  · rename_i some_left
    rw [if_neg (mt goes_iff.2 some_left), withMachine, updatedMachine, left]
    rfl

theorem commitMachine_released_run :
    (commitMachine machine machine.released).run world =
      (.ok (), world.withStore (world.store.withReleased machine)) := by
  have changed : machine.bodyChanged machine.released = true := by
    refine Bool.of_not_eq_false fun same => ?_
    obtain ⟨names, listed, present⟩ := (Option.any_eq_true _ _).1 guarded
    have kept : names = names.filter (· != MetalMachine.finalizer) := by
      have same_finalizers := (MetalMachine.bodyChanged_eq_false_iff.1 same).1
      simpa [MetalMachine.released, MetalMachine.removeFinalizer, listed] using same_finalizers
    rw [kept] at present
    simp at present
  have same_status : machine.status = machine.released.status := rfl
  unfold commitMachine
  rw [if_pos changed, Pass.run_call_bind, perform,
    updateMetalMachine_released found deleting guarded]
  dsimp only
  rw [commitMachineStatus_of_eq same_status]
  rfl

theorem machinePass_release_run :
    (machinePass machine.key).run world =
      let seen := world.withIndex (world.memory.index.learn (.machineSeen machine))
      if seen.toRelease machine = [] then
        (.ok .done, (seen.relieved machine).withStore (world.store.withReleased machine))
      else (.ok (.requeue .bindingReleasing), seen.relieved machine) := by
  unfold machinePass
  refine (Pass.run_get_bind _ world fun _ => rfl).trans ?_
  rw [found]
  change (currentMachinePass machine.key machine).run
    (world.withIndex (world.memory.index.learn (.machineSeen machine))) = _
  have found_seen : (world.withIndex (world.memory.index.learn (.machineSeen
      machine))).store.metalMachines.get? machine.key = some machine := found
  rw [← Surroundings.store_withIndex world (world.memory.index.learn (.machineSeen machine))]
  generalize world.withIndex (world.memory.index.learn (.machineSeen machine)) = seen at *
  unfold currentMachinePass
  rw [if_pos deleting, if_pos guarded]
  have ran := release_run machine seen
  dsimp only
  split
  · rename_i nothing
    rw [if_pos nothing] at ran
    have same_store : (seen.relieved machine).store = seen.store := by
      change seen.store.withoutBindings (seen.toRelease machine) = seen.store
      rw [nothing]
      rfl
    have committed := commitMachine_released_run (same_store.symm ▸ found_seen) deleting guarded
    rw [same_store] at committed
    exact withCommit_run ran committed
  · rename_i some_found
    rw [if_neg some_found] at ran
    have committed : (commitMachine machine machine).run (seen.relieved machine) =
        (.ok (), seen.relieved machine) := by
      rw [commitMachine_self]
      rfl
    exact withCommit_run ran committed

end

/-! ## Pass after pass -/

/-- Of a store bindings of one machine are gone, at least one of them, and nothing else happened. -/
structure Relieves (key : ObjectKey) (before after : Store) : Prop where
  /-- Nothing was written. -/
  frame : after = { before with serverBindings := after.serverBindings }
  /-- No binding is new or changed. -/
  old : ∀ name binding, after.serverBindings.get? name = some binding →
    before.serverBindings.get? name = some binding
  /-- Bindings of other machines are there still. -/
  others : ∀ name binding, before.serverBindings.get? name = some binding →
    binding.isHeldBy key = false → after.serverBindings.get? name = some binding
  /-- A binding of the machine is gone. -/
  gone : ∃ name binding, before.serverBindings.get? name = some binding ∧
    binding.isHeldBy key = true ∧ after.serverBindings.get? name = none

/-- A machine was let go that holds nothing, and nothing else happened. -/
structure Dismisses (machine : MetalMachine) (before after : Store) : Prop where
  /-- No binding is the machine's. -/
  free : after.HoldsNothing machine.key
  /-- Nothing was written but machines. -/
  frame : after =
    { before with version := before.version + 1, metalMachines := after.metalMachines }
  /-- Other machines are as they were. -/
  others : ∀ other, other ≠ machine.key →
    after.metalMachines.get? other = before.metalMachines.get? other
  /-- The machine is gone, or others hold it back and it names no server. -/
  own : after.metalMachines.get? machine.key =
    if machine.otherFinalizers = [] then none
    else some { machine with
      metadata.finalizers := some machine.otherFinalizers
      metadata.resourceVersion := some before.nextVersion
      spec.serverRef := none }

theorem Relieves.not_holdsNothing {before after : Store} (relieves : Relieves key before after) :
    ¬before.HoldsNothing key := by
  obtain ⟨name, binding, found, holds, _⟩ := relieves.gone
  exact fun holds_nothing => nomatch (holds_nothing name binding found).symm.trans holds

theorem Relieves.namesBindings {before after : Store} (relieves : Relieves key before after)
    (named : before.NamesBindings) : after.NamesBindings :=
  fun name binding found => named name binding (relieves.old name binding found)

theorem Relieves.metalMachines {before after : Store} (relieves : Relieves key before after) :
    after.metalMachines = before.metalMachines := by
  rw [relieves.frame]

/-- A release that finds bindings deletes them. -/
theorem relieves_relieved (named : world.store.NamesBindings)
    (some_found : world.toRelease machine ≠ []) :
    Relieves machine.key world.store (world.relieved machine).store where
  frame := rfl
  old name binding found := (get?_withoutBindings.1 found).2
  others name binding found elsewhere := by
    refine get?_withoutBindings.2 ⟨fun member => ?_, found⟩
    obtain ⟨own, holds⟩ := Surroundings.heldUnder?_of_mem_toRelease named member
    obtain ⟨stored, holds⟩ := heldUnder?_eq_some_iff.1 holds
    obtain rfl : binding = own := Option.some.inj (found.symm.trans stored)
    exact nomatch elsewhere.symm.trans holds
  gone := by
    obtain ⟨name, member⟩ := List.exists_mem_of_ne_nil _ some_found
    obtain ⟨binding, holds⟩ := Surroundings.heldUnder?_of_mem_toRelease named member
    obtain ⟨stored, holds⟩ := heldUnder?_eq_some_iff.1 holds
    refine ⟨name, binding, stored, holds, Option.eq_none_iff_forall_ne_some.2 ?_⟩
    exact fun other found => (get?_withoutBindings.1 found).1 member

theorem dismisses_withReleased {store : Store} (free : store.HoldsNothing machine.key) :
    Dismisses machine store (store.withReleased machine) := by
  unfold withReleased
  split
  · rename_i none_left
    refine ⟨free, rfl, fun other differs => Dict.get?_erase_of_ne differs _, ?_⟩
    rw [if_pos none_left]
    exact Dict.get?_erase_self _ _
  · rename_i some_left
    refine ⟨free, rfl, fun other differs => Dict.get?_insert_of_ne differs _ _, ?_⟩
    rw [if_neg some_left]
    exact Dict.get?_insert_self _ _ _

/-- A pass over the machine of a key deletes bindings of the machine and has to be repeated. -/
structure Surroundings.Relieving (world : Surroundings) (key : ObjectKey) : Prop where
  /-- The pass asks for another one. -/
  result : ((machinePass key).run world).1 = .ok (.requeue .bindingReleasing)
  /-- Only bindings of the machine are gone. -/
  relieves : Relieves key world.store ((machinePass key).run world).2.store

/-- A pass over a machine lets it go. -/
structure Surroundings.Dismissing (world : Surroundings) (machine : MetalMachine) : Prop where
  /-- There is nothing left to do. -/
  result : ((machinePass machine.key).run world).1 = .ok .done
  /-- Only the machine was written, or is gone. -/
  dismisses : Dismisses machine world.store ((machinePass machine.key).run world).2.store

section

variable (deleting : machine.isDeleting = true) (guarded : machine.hasFinalizer = true)

include deleting guarded

/-- A pass over a machine that is marked for deletion deletes bindings of the machine, or lets it
go.  After a deletion the index knows no binding of the machine any more, and if it knew none
before, there is none. -/
theorem machinePass_leaving (named : world.store.NamesBindings)
    (found : world.store.metalMachines.get? machine.key = some machine) :
    world.Dismissing machine ∨ world.Relieving machine.key ∧
      (((machinePass machine.key).run world).2.known machine.key = [] ∨
        ((machinePass machine.key).run world).2.store.HoldsNothing machine.key) ∧
      (world.known machine.key = [] →
        ((machinePass machine.key).run world).2.store.HoldsNothing machine.key) := by
  have ran := machinePass_release_run found deleting guarded
  have same_known : (world.withIndex (world.memory.index.learn (.machineSeen machine))).known
      machine.key = world.known machine.key := by
    simp only [Surroundings.known, Surroundings.index_withIndex, Surroundings.store_withIndex,
      Index.bindingsFor_machineSeen]
  rw [← Surroundings.store_withIndex world (world.memory.index.learn (.machineSeen machine))]
    at named
  dsimp only at ran
  split at ran
  · rename_i nothing
    have free := Surroundings.holdsNothing_of_toRelease named nothing
    refine .inl ⟨by rw [ran], ?_⟩
    rw [ran]
    exact dismisses_withReleased free
  · rename_i some_found
    have relieves := relieves_relieved named some_found
    have frees := Surroundings.holdsNothing_relieved named machine
    rw [same_known] at frees
    refine .inr ⟨⟨by rw [ran], by rw [ran]; exact relieves⟩, ?_⟩
    rw [ran]
    refine ⟨?_, frees⟩
    by_cases unknown : world.known machine.key = []
    · exact .inr (frees unknown)
    · exact .inl (Surroundings.known_relieved named (same_known ▸ unknown))

end

/-- At most two passes over a machine that is marked for deletion delete bindings, each at least
one and none of another machine; the next one finds that the machine holds nothing and lets it
go. -/
theorem released_within_three_passes (arises : world.store.Arises)
    (named : world.store.NamesBindings) (found : world.store.metalMachines.get? key = some machine)
    (deleting : machine.isDeleting = true) (guarded : machine.hasFinalizer = true) :
    ∃ count < 3, (∀ turn < count, (world.afterPasses key turn).Relieving key) ∧
      (world.afterPasses key count).Dismissing machine := by
  obtain rfl : machine.key = key := arises.wellKept.machine_key key machine found
  have none_before : ∀ turn < 0, (world.afterPasses machine.key turn).Relieving machine.key :=
    fun _ before => absurd before (Nat.not_lt_zero _)
  -- The first pass leaves an index that knows nothing, or nothing at all.
  rcases machinePass_leaving deleting guarded named found with ends | ⟨first, forgets, _⟩
  · exact ⟨0, by decide, none_before, ends⟩
  have named_first := first.relieves.namesBindings named
  have found_first := first.relieves.metalMachines.symm ▸ found
  have first_before := Nat.forall_lt_succ_right.2 ⟨none_before, first⟩
  -- So the second leaves nothing.
  rcases machinePass_leaving deleting guarded named_first found_first with
    ends | ⟨second, _, frees⟩
  · exact ⟨1, by decide, first_before, ends⟩
  have named_second := second.relieves.namesBindings named_first
  have found_second := second.relieves.metalMachines.symm ▸ found_first
  have second_before := Nat.forall_lt_succ_right.2 ⟨first_before, second⟩
  rcases machinePass_leaving deleting guarded named_second found_second with ends | ⟨third, _⟩
  · exact ⟨2, by decide, second_before, ends⟩
  rcases forgets with forgot | free
  · exact absurd (frees forgot) third.relieves.not_holdsNothing
  · exact absurd free second.relieves.not_holdsNothing

/-- A machine that is marked for deletion, names a server that it does not hold, and is held back by
somebody else, too. -/
def departing : MetalMachine where
  metadata := {
    name := some "a"
    space := some "lab"
    deletionTimestamp := some Fleet.epoch
    finalizers := some [MetalMachine.finalizer, "keeper"] }
  spec := { serverRef := some (.ofName "u") }

/-- A store in which the machine holds two servers and another machine holds a third. -/
def burdened : Store :=
  ((((Laboratory.store []).addMetalMachine departing).addServerBinding
    (claim departing "s" none)).addServerBinding (claim departing "t" none)).addServerBinding
      (claim (Laboratory.machine "b" {}) "u" none)

/-- The allocator knows one of the two bindings, and one that is long gone. -/
def forgetful : Surroundings :=
  Laboratory.surroundings burdened
    ((({} : Index).applyBinding (claim departing "s" none)).applyBinding
      (claim departing "gone" none))

theorem burdened_arises : burdened.Arises :=
  ((((Laboratory.store_arises []).addMetalMachine departing).addServerBinding _).addServerBinding
    _).addServerBinding _

/-- The first pass leaves a binding of the machine, and the third lets it go. -/
theorem released_within_three_passes_forgetful : forgetful.store.Arises ∧
    forgetful.store.NamesBindings ∧
      ∃ machine, forgetful.store.metalMachines.get? (Laboratory.key "a") = some machine ∧
        machine.isDeleting = true ∧ machine.hasFinalizer = true ∧
          ¬(forgetful.afterPasses (Laboratory.key "a") 1).store.HoldsNothing (Laboratory.key "a") ∧
            ∃ count < 3, (∀ turn < count,
              (forgetful.afterPasses (Laboratory.key "a") turn).Relieving (Laboratory.key "a")) ∧
              (forgetful.afterPasses (Laboratory.key "a") count).Dismissing machine := by
  have named : forgetful.store.NamesBindings := namesBindings_of_all (by decide +kernel)
  have fits : (forgetful.store.metalMachines.get? (Laboratory.key "a")).any (fun machine =>
      machine.isDeleting && machine.hasFinalizer) = true := by decide +kernel
  obtain ⟨machine, found, fits⟩ := (Option.any_eq_true _ _).1 fits
  obtain ⟨deleting, guarded⟩ := Bool.and_eq_true_iff.1 fits
  have left : (((forgetful.afterPasses (Laboratory.key "a") 1).store.serverBindings.get? "t").any
      fun binding => binding.isHeldBy (Laboratory.key "a")) = true := by decide +kernel
  obtain ⟨binding, found_binding, holds⟩ := (Option.any_eq_true _ _).1 left
  exact ⟨burdened_arises, named, machine, found, deleting, guarded,
    fun free => (nomatch (free "t" binding found_binding).symm.trans holds),
    released_within_three_passes burdened_arises named found deleting guarded⟩

end BareMetal
