import BareMetal.Proofs.Claim.Evolution
import BareMetal.Proofs.Fleet
import BareMetal.Proofs.Pass.Restoring

/-!
# Lost claims come back

A machine that names a server without a binding is to get the binding back from a pass over the
server.  It does unless the index knows machines that name the server and all of them are marked
for deletion: then the pass does not look for others.
-/

namespace BareMetal

open Store

variable {world : Surroundings} {server : String}

/-- A machine is stored that names a server and is not marked for deletion. -/
def Store.Remembers (store : Store) (server : String) : Prop :=
  ∃ key machine, store.metalMachines.get? key = some machine ∧
    machine.namesServer server = true ∧ machine.isDeleting = false

/-- One store came from another by giving a server a binding to a machine that names it and is not
marked for deletion.  Nothing else changed. -/
def Restored (before after : Store) (server : String) : Prop :=
  ∃ key machine binding, before.metalMachines.get? key = some machine ∧
    machine.namesServer server = true ∧ machine.isDeleting = false ∧
    binding.metadata.name = some server ∧ binding.isHeldBy key = true ∧
    after = { before with
      version := before.version + 1
      nextUid := before.nextUid + 1
      bindingCreates := before.bindingCreates + 1
      serverBindings := before.serverBindings.insert server binding }

/-- The index knows machines that name a server, but only such as are marked for deletion. -/
def Surroundings.Misled (world : Surroundings) (server : String) : Prop :=
  world.knownNamers server ≠ [] ∧ ∀ machine ∈ world.knownNamers server, machine.isDeleting = true

/-- A pass over a server gives it back its binding, and the passes after it change nothing. -/
structure Surroundings.Restores (world : Surroundings) (server : String) : Prop where
  done : ((serverPass server).run world).1 = .ok .done
  restored : Restored world.store ((serverPass server).run world).2.store server
  settled : ∀ again : Surroundings, again.store = ((serverPass server).run world).2.store →
    (serverPass server).run again = (.ok .done, again)

theorem Restored.bound {before after : Store} (restored : Restored before after server) :
    ∃ binding, after.serverBindings.get? server = some binding := by
  obtain ⟨_, _, binding, _, _, _, _, _, rfl⟩ := restored
  exact ⟨binding, Dict.get?_insert_self _ _ _⟩

theorem restored_withCreated {store : Store} {key : ObjectKey} {machine : MetalMachine}
    (found : store.metalMachines.get? key = some machine) (keyed : machine.key = key)
    (named : machine.metadata.name.isSome = true) (names : machine.namesServer server = true)
    (stays : machine.isDeleting = false) :
    Restored store (store.withCreated (claim machine server machine.spec.serverClassRef))
      server := by
  have holds := holder_claim named server machine.spec.serverClassRef
  rw [keyed] at holds
  refine ⟨key, machine, store.createdBinding (claim machine server machine.spec.serverClassRef),
    found, names, stays, rfl, ?_, rfl⟩
  exact ServerBinding.isHeldBy_iff.2 holds

/-- There is a machine to claim a server for exactly if one is stored and the index does not hide
it. -/
theorem Surroundings.heir?_isSome_iff_remembers :
    (world.heir? server).isSome = true ↔ world.store.Remembers server ∧ ¬world.Misled server := by
  rw [heir?_isSome_iff]
  constructor
  · rintro ⟨machine, member, stays⟩
    constructor
    · obtain ⟨key, found⟩ := stored_of_mem_namers member
      exact ⟨key, machine, found, namesServer_of_mem_namers member, stays⟩
    · rintro ⟨known, leaving⟩
      rw [namers, if_neg (by simpa using known)] at member
      rw [leaving machine member] at stays
      contradiction
  · rintro ⟨⟨key, machine, found, names, stays⟩, informed⟩
    by_cases unknown : world.knownNamers server = []
    · have listed : machine ∈ machinesNaming server world.store.metalMachines.values :=
        List.mem_filter.2 ⟨Dict.mem_values.2 ⟨key, found⟩, names⟩
      exact ⟨machine, by simpa [namers, unknown] using listed, stays⟩
    · have one_stays : ∃ other ∈ world.knownNamers server, other.isDeleting = false := by
        apply Classical.byContradiction
        intro none_stays
        apply informed
        constructor
        · exact unknown
        · intro other member
          rw [← Bool.not_eq_false]
          intro stays
          exact none_stays ⟨other, member, stays⟩
      simpa [namers, unknown] using one_stays

/-- A pass over a free server restores its binding exactly if a machine remembers the server and
the index does not know just machines that are marked for deletion.  Otherwise it changes nothing
but the index. -/
theorem restores_iff_not_misled (arises : world.store.Arises)
    (accepts : world.store.createFailure = none)
    (named : ∀ key machine, world.store.metalMachines.get? key = some machine →
      machine.metadata.name.isSome = true)
    (free : world.store.serverBindings.get? server = none) :
    (world.Restores server ↔ world.store.Remembers server ∧ ¬world.Misled server) ∧
      (¬world.Restores server →
        ∃ index, (serverPass server).run world = (.ok .done, world.withIndex index)) := by
  rw [← Surroundings.heir?_isSome_iff_remembers]
  cases found : world.heir? server with
  | none =>
      obtain ⟨index, ran⟩ := serverPass_run_of_no_heir free found
      have fails : ¬world.Restores server := by
        intro restores
        obtain ⟨binding, bound⟩ := restores.restored.bound
        rw [ran, Surroundings.store_withIndex, free] at bound
        contradiction
      exact ⟨by simp [fails], fun _ => ⟨index, ran⟩⟩
  | some machine =>
      obtain ⟨index, ran⟩ := serverPass_run_of_heir free found accepts
      obtain ⟨member, stays⟩ := Surroundings.heir?_eq_some found
      obtain ⟨key, stored⟩ := Surroundings.stored_of_mem_namers member
      have names := Surroundings.namesServer_of_mem_namers member
      have restored := restored_withCreated stored
        (arises.wellKept.machine_key key machine stored) (named key machine stored) names stays
      have restores : world.Restores server := by
        constructor
        · rw [ran]
        · rw [ran]
          exact restored
        · intro again same
          obtain ⟨binding, bound⟩ := restored.bound
          rw [ran] at same
          exact serverPass_run_of_bound ((congrArg (fun store : Store =>
            store.serverBindings.get? server) same).trans bound)
      simp [restores]

/-- A machine that names a server and is marked for deletion, held back by somebody else. -/
def deserting : MetalMachine where
  metadata := {
    name := some "a"
    space := some "lab"
    deletionTimestamp := some Fleet.epoch
    finalizers := some ["keeper"] }
  spec := { serverRef := some (.ofName "s") }

/-- A store in which a machine that is marked for deletion and one that is not name the same free
server. -/
def deserted : Store :=
  ((Laboratory.store ["s"]).addMetalMachine deserting).addMetalMachine
    (Laboratory.machine "b" { serverRef := some (.ofName "s") })

theorem deserted_arises : deserted.Arises :=
  ((Laboratory.store_arises ["s"]).addMetalMachine _).addMetalMachine _

theorem deserted_remembers : deserted.Remembers "s" := by
  have fits : (deserted.metalMachines.get? (Laboratory.key "b")).any (fun machine =>
      machine.namesServer "s" && !machine.isDeleting) = true := by decide +kernel
  obtain ⟨machine, found, fits⟩ := (Option.any_eq_true _ _).1 fits
  simp only [Bool.and_eq_true, Bool.not_eq_true'] at fits
  exact ⟨_, machine, found, fits⟩

theorem deserted_named (key : ObjectKey) (machine : MetalMachine)
    (found : deserted.metalMachines.get? key = some machine) :
    machine.metadata.name.isSome = true := by
  have all_named : deserted.metalMachines.entries.all
      (fun entry => entry.2.metadata.name.isSome) = true := by decide +kernel
  exact List.all_eq_true.1 all_named _ (Dict.get?_eq_some_iff.1 found)

/-- With an index that knows only the machine that is marked for deletion, the server stays without
a binding. -/
theorem deserted_not_restored : deserted.Arises ∧ deserted.createFailure = none ∧
    deserted.serverBindings.get? "s" = none ∧
    (∀ key machine, deserted.metalMachines.get? key = some machine →
      machine.metadata.name.isSome = true) ∧
    deserted.Remembers "s" ∧
    ¬(Laboratory.surroundings deserted (({} : Index).applyMachine deserting)).Restores "s" := by
  refine ⟨deserted_arises, rfl, rfl, deserted_named, deserted_remembers, fun restores => ?_⟩
  obtain ⟨binding, bound⟩ := restores.restored.bound
  have free : (((serverPass "s").run (Laboratory.surroundings deserted
      (({} : Index).applyMachine deserting))).2.store.serverBindings.get? "s").isNone = true := by
    decide +kernel
  rw [bound] at free
  contradiction

/-- With an empty index the pass restores the binding. -/
theorem restores_iff_not_misled_deserted : deserted.Arises ∧
    (Laboratory.surroundings deserted {}).Restores "s" := by
  have informed : ¬(Laboratory.surroundings deserted {}).Misled "s" := fun misled => misled.1 rfl
  have arises : (Laboratory.surroundings deserted {}).store.Arises := deserted_arises
  have conditions := restores_iff_not_misled arises rfl deserted_named
    (show deserted.serverBindings.get? "s" = none from rfl)
  exact ⟨deserted_arises, conditions.1.2 ⟨deserted_remembers, informed⟩⟩

end BareMetal
