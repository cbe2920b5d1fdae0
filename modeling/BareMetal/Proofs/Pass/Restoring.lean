import BareMetal.Pass.Server
import BareMetal.Proofs.Pass.Healing
import BareMetal.Proofs.Pass.Running

/-!
# The claim that a pass over a server restores

A pass over a server without a binding claims it for the first machine that it finds to name the
server and that is not marked for deletion.  What it finds are the machines that the index knows,
and all machines only if the index knows none.
-/

namespace BareMetal

variable {world : Surroundings} {server : String}

/-! ## The machines that name a server -/

/-- The machine of a key, if it is there and names a server. -/
def Store.naming? (store : Store) (server : String) (key : ObjectKey) : Option MetalMachine :=
  (store.metalMachines.get? key).filter fun machine => machine.namesServer server

namespace Surroundings

/-- The machines that the index knows for a server and that name it. -/
def knownNamers (world : Surroundings) (server : String) : List MetalMachine :=
  (world.memory.index.machinesFor server).filterMap (world.store.naming? server)

/-- The machines that a pass over a server finds to name it: those that the index knows, or else
all. -/
def namers (world : Surroundings) (server : String) : List MetalMachine :=
  if (world.knownNamers server).isEmpty then
    machinesNaming server world.store.metalMachines.values
  else world.knownNamers server

/-- The machine for which a pass claims a server: the first by key that it finds to name the server
and that stays. -/
def heir? (world : Surroundings) (server : String) : Option MetalMachine :=
  ((world.namers server).mergeSort MetalMachine.inKeyOrder).find? fun machine =>
    !machine.isDeleting

theorem namesServer_of_mem_namers {machine : MetalMachine}
    (member : machine ∈ world.namers server) : machine.namesServer server = true := by
  unfold namers at member
  split at member
  · exact (List.mem_filter.1 member).2
  · obtain ⟨key, _, found⟩ := List.mem_filterMap.1 member
    exact (Option.filter_eq_some_iff.1 found).2

theorem stored_of_mem_namers {machine : MetalMachine} (member : machine ∈ world.namers server) :
    ∃ key, world.store.metalMachines.get? key = some machine := by
  unfold namers at member
  split at member
  · exact Dict.mem_values.1 (List.mem_filter.1 member).1
  · obtain ⟨key, _, found⟩ := List.mem_filterMap.1 member
    exact ⟨key, (Option.filter_eq_some_iff.1 found).1⟩

theorem heir?_eq_some {machine : MetalMachine} (found : world.heir? server = some machine) :
    machine ∈ world.namers server ∧ machine.isDeleting = false :=
  ⟨List.mem_mergeSort.1 (List.mem_of_find?_eq_some found), by
    simpa using List.find?_some found⟩

/-- There is a machine to claim the server for exactly if one that stays is found. -/
theorem heir?_isSome_iff : (world.heir? server).isSome = true ↔
    ∃ machine ∈ world.namers server, machine.isDeleting = false := by
  simp [heir?, List.find?_isSome]

end Surroundings

theorem checkMachines_run (server : String) (keys : List ObjectKey) (world : Surroundings) :
    ∃ index, (checkMachines server keys).run.run world =
      (.ok (keys.filterMap (world.store.naming? server)), world.withIndex index) := by
  induction keys generalizing world with
  | nil => exact ⟨_, rfl⟩
  | cons key rest ih =>
      unfold checkMachines
      rw [Attempt.run_get_bind _ world fun _ => rfl]
      cases found : world.store.metalMachines.get? key with
      | none =>
          obtain ⟨index, checked⟩ := ih (world.withIndex (world.memory.index.removeMachine key))
          refine ⟨index, checked.trans ?_⟩
          rw [List.filterMap_cons_none (by rw [Store.naming?, found]; rfl)]
          rfl
      | some machine =>
          cases names : machine.namesServer server with
          | true =>
              obtain ⟨index, checked⟩ := ih world
              refine ⟨index, ?_⟩
              rw [List.filterMap_cons_some (by rw [Store.naming?, found]; exact if_pos names)]
              dsimp only [Store.found]
              rw [if_pos names]
              exact Attempt.run_bind_of_ok checked
          | false =>
              obtain ⟨index, checked⟩ :=
                ih (world.withIndex (world.memory.index.applyMachine machine))
              refine ⟨index, ?_⟩
              rw [List.filterMap_cons_none
                (by rw [Store.naming?, found]; exact if_neg (by simp [names]))]
              dsimp only [Store.found]
              rw [if_neg (by simp [names])]
              exact checked

theorem listMachines_run (server : String) (world : Surroundings) :
    (listMachines server).run.run world =
      (.ok (machinesNaming server world.store.metalMachines.values),
        world.withIndex (((machinesNaming server world.store.metalMachines.values).map
          .machineSeen).foldl Index.learn world.memory.index)) :=
  Attempt.run_learnAll_bind _ _ world

/-- A look for the machines that name a server changes nothing but the index. -/
theorem namingMachines_run (server : String) (world : Surroundings) :
    ∃ index, (namingMachines server).run.run world =
      (.ok ((world.namers server).mergeSort MetalMachine.inKeyOrder), world.withIndex index) := by
  obtain ⟨index, checked⟩ := checkMachines_run server (world.memory.index.machinesFor server) world
  unfold namingMachines
  rw [Attempt.run_machinesFor_bind, Attempt.run_bind_of_ok checked]
  unfold Surroundings.namers Surroundings.knownNamers
  dsimp only
  split
  · exact ⟨_, Attempt.run_bind_of_ok (listMachines_run server (world.withIndex index))⟩
  · exact ⟨index, rfl⟩

/-! ## The claim -/

/-- Of the machines that name a server only the first counts that stays. -/
theorem healFrom_eq {machines : List MetalMachine}
    (names : ∀ machine ∈ machines, machine.namesServer server = true) :
    healFrom machines = match machines.find? fun machine => !machine.isDeleting with
      | none => pure none
      | some machine => healFrom [machine] := by
  induction machines with
  | nil => rfl
  | cons machine rest ih =>
      have skips := ih fun other member => names other (List.mem_cons_of_mem _ member)
      rw [List.find?_cons]
      cases deleting : machine.isDeleting with
      | true =>
          rw [healFrom, if_pos deleting, skips]
          rfl
      | false =>
          have own := MetalMachine.ownClaim?_of_namesServer (names machine List.mem_cons_self)
          simp only [Bool.not_false, healFrom, deleting, own]
          rfl

section

variable (world) {machine : MetalMachine} (names : machine.namesServer server = true)
  (stays : machine.isDeleting = false)

include names stays

theorem healFrom_singleton_run (accepts : world.store.createFailure = none)
    (free : world.store.serverBindings.get? server = none) :
    ∃ index, (healFrom [machine]).run.run world =
      (.ok (some machine.key), (world.withStore (world.store.withCreated
        (claim machine server machine.spec.serverClassRef))).withIndex index) := by
  have created := Store.createServerBinding_of_free
    (claim machine server machine.spec.serverClassRef) accepts free
  rw [healFrom, if_neg (by simp [stays]), MetalMachine.ownClaim?_of_namesServer names]
  dsimp only
  rw [Attempt.run_call_bind, Store.perform, created]
  exact ⟨_, Attempt.run_learn_bind _ _⟩

theorem healFrom_singleton_refused {message : String}
    (refuses : world.store.createFailure = some message) :
    (healFrom [machine]).run.run world = (.error (.store (.invalidRequest message)), world) := by
  rw [healFrom, if_neg (by simp [stays]), MetalMachine.ownClaim?_of_namesServer names]
  dsimp only
  rw [Attempt.run_call_bind, Store.perform, Store.createServerBinding_of_refused refuses]
  rfl

end

/-- Healing comes down to the claim for the machine that is found. -/
theorem healBinding_run (server : String) (world : Surroundings) :
    ∃ index, (healBinding server).run.run world =
      (match world.heir? server with
        | none => pure none
        | some machine => healFrom [machine]).run.run (world.withIndex index) := by
  obtain ⟨index, found⟩ := namingMachines_run server world
  refine ⟨index, (Attempt.run_bind_of_ok found).trans ?_⟩
  rw [healFrom_eq fun machine member =>
    Surroundings.namesServer_of_mem_namers (List.mem_mergeSort.1 member)]
  rfl

/-! ## Passes over servers -/

/-- A pass over a server that has a binding changes nothing. -/
theorem serverPass_run_of_bound {binding : ServerBinding}
    (bound : world.store.serverBindings.get? server = some binding) :
    (serverPass server).run world = (.ok .done, world) := by
  unfold serverPass
  rw [Pass.run_get_bind _ world fun _ => rfl, bound]
  rfl

section

variable (free : world.store.serverBindings.get? server = none)

include free

theorem serverPass_run_of_healed {result : Except PassError (Option ObjectKey)}
    {later : Surroundings} (healed : (healBinding server).run.run world = (result, later)) :
    (serverPass server).run world = (result.map fun _ => .done, later) := by
  unfold serverPass
  rw [Pass.run_get_bind _ world fun _ => rfl, free]
  refine (Pass.run_bind_of healed).trans ?_
  cases result <;> rfl

/-- A pass over a free server that finds no machine to claim it for changes nothing but the
index. -/
theorem serverPass_run_of_no_heir (none_found : world.heir? server = none) :
    ∃ index, (serverPass server).run world = (.ok .done, world.withIndex index) := by
  obtain ⟨index, healed⟩ := healBinding_run server world
  rw [none_found] at healed
  exact ⟨index, serverPass_run_of_healed free healed⟩

variable {machine : MetalMachine} (found : world.heir? server = some machine)

include found

/-- A pass over a free server claims it for the machine that it finds. -/
theorem serverPass_run_of_heir (accepts : world.store.createFailure = none) :
    ∃ index, (serverPass server).run world =
      (.ok .done, (world.withStore (world.store.withCreated
        (claim machine server machine.spec.serverClassRef))).withIndex index) := by
  obtain ⟨member, stays⟩ := Surroundings.heir?_eq_some found
  obtain ⟨index, healed⟩ := healBinding_run server world
  rw [found] at healed
  obtain ⟨last, claimed⟩ := healFrom_singleton_run (world.withIndex index)
    (Surroundings.namesServer_of_mem_namers member) stays accepts free
  exact ⟨last, serverPass_run_of_healed free (healed.trans claimed)⟩

/-- A pass over a free server leaves it free while creating bindings is refused. -/
theorem serverPass_run_of_refused {message : String}
    (refuses : world.store.createFailure = some message) :
    ∃ index, (serverPass server).run world =
      (.error (.store (.invalidRequest message)), world.withIndex index) := by
  obtain ⟨member, stays⟩ := Surroundings.heir?_eq_some found
  obtain ⟨index, healed⟩ := healBinding_run server world
  rw [found] at healed
  have refused := healFrom_singleton_refused (world.withIndex index)
    (Surroundings.namesServer_of_mem_namers member) stays refuses
  exact ⟨index, serverPass_run_of_healed free (healed.trans refused)⟩

end

end BareMetal
