import BareMetal.Proofs.Claim.Evolution
import BareMetal.Proofs.Fleet
import BareMetal.Proofs.Pass.Offering
import BareMetal.Proofs.Qualification

/-!
# Picking a server of a class

A machine that names a class and holds nothing tries the class's claimable servers in the order of
their names, as often as they are listed.  It claims the first without a binding; each try before
that one met a binding and is counted as a conflict.  Nothing else in the store changes.
-/

namespace BareMetal

open Store

/-! ## The servers that are tried -/

namespace Store

/-- Whether a name is that of a stored server that belongs to a class, is free and is clean. -/
def isCandidate (store : Store) (serverClass : ServerClass) (name : String) : Bool :=
  (store.servers.get? name).any fun server =>
    server.belongs serverClass.spec && server.isClaimable

/-- The candidates among a class's available servers, ascending; a name that is listed more than
once comes more than once. -/
def candidateNames (store : Store) (serverClass : ServerClass) : List String :=
  (serverClass.availableServers.filter (store.isCandidate serverClass)).mergeSort fun left right =>
    decide (left ≤ right)

section

variable {store : Store} {serverClass : ServerClass}

/-- The servers to be tried of a class, as they are listed, have the names of its candidates. -/
theorem ServersByName.triedNames_listed (named : store.ServersByName) (names : List String) :
    triedNames ((names.filterMap store.servers.get?).filter (Server.belongs serverClass.spec)) =
      names.filter (store.isCandidate serverClass) := by
  rw [triedNames]
  induction names with
  | nil => rfl
  | cons name rest ih =>
      cases found : store.servers.get? name with
      | none =>
          have unfit : store.isCandidate serverClass name = false := by simp [isCandidate, found]
          simpa [found, unfit] using ih
      | some server =>
          have fit : store.isCandidate serverClass name =
              (server.belongs serverClass.spec && server.isClaimable) := by
            simp [isCandidate, found]
          cases belongs : server.belongs serverClass.spec <;>
            cases claimable : server.isClaimable <;>
            simpa [found, fit, belongs, claimable, named.anyName_eq found] using ih

/-- The servers that are tried have the names of the class's candidates, in the same order. -/
theorem ServersByName.triedNames_candidates (named : store.ServersByName) :
    triedNames (store.candidates serverClass) = store.candidateNames serverClass := by
  have is_named : ∀ server ∈ store.candidates serverClass, server.metadata.name.isSome = true := by
    intro server member
    obtain ⟨⟨name, _, found⟩, _⟩ := mem_candidates.1 member
    rw [named name server found, Option.isSome_some]
  have ascending : (triedNames (store.candidates serverClass)).Pairwise (· ≤ ·) :=
    List.pairwise_map.2 ((pairwise_candidates is_named).filter _)
  have same : (triedNames (store.candidates serverClass)).Perm
      (store.candidateNames serverClass) := by
    have unsorted : (triedNames (store.candidates serverClass)).Perm _ :=
      ((List.mergeSort_perm _ _).filter _).map _
    rw [← triedNames, named.triedNames_listed] at unsorted
    exact unsorted.trans (List.mergeSort_perm _ _).symm
  exact same.eq_of_pairwise (fun _ _ _ _ front back => Std.le_antisymm front back) ascending
    (pairwise_mergeSort_names _)

end

end Store

/-! ## The server that is claimed -/

theorem Metadata.anyName_eq (metadata : Metadata) :
    metadata.anyName = (metadata.name.or metadata.generateName).getD "" := by
  cases found : metadata.name <;> simp [anyName, found]

/-- A full reference to a metal machine, field by field. -/
theorem Reference.toObject_metalMachine (machine : MetalMachine) : Reference.toObject machine = {
    apiVersion := some "infrastructure.cluster.x-k8s.io/v1alpha3"
    kind := some "MetalMachine"
    name := (machine.metadata.name.or machine.metadata.generateName).getD ""
    space := machine.metadata.space
    uid := machine.metadata.uid } := by
  rw [← Metadata.anyName_eq]
  rfl

/-- A full reference to a class, field by field. -/
theorem Reference.toObject_serverClass (serverClass : ServerClass) :
    Reference.toObject serverClass = {
      apiVersion := some "metal.dcops.microscaler.io/v1alpha1"
      kind := some "ServerClass"
      name := (serverClass.metadata.name.or serverClass.metadata.generateName).getD ""
      space := serverClass.metadata.space
      uid := serverClass.metadata.uid } := by
  rw [← Metadata.anyName_eq]
  rfl

/-- A store gained one binding, by which a machine holds a server of a class. -/
structure Store.GainsClaim (before after : Store) (machine : MetalMachine) (server : String)
    (serverClass : ServerClass) : Prop where
  /-- The server had no binding. -/
  free : before.serverBindings.get? server = none
  /-- It has one now, with the machine's labels, a full reference to the machine and one to the
  class, and nothing else. -/
  bound : ∃ binding, after.serverBindings.get? server = some binding ∧
    binding.metadata.name = some server ∧ binding.metadata.labels = machine.metadata.labels ∧
    binding.spec = {
      metalMachineRef := {
        apiVersion := some "infrastructure.cluster.x-k8s.io/v1alpha3"
        kind := some "MetalMachine"
        name := (machine.metadata.name.or machine.metadata.generateName).getD ""
        space := machine.metadata.space
        uid := machine.metadata.uid }
      serverClassRef := some {
        apiVersion := some "metal.dcops.microscaler.io/v1alpha1"
        kind := some "ServerClass"
        name := (serverClass.metadata.name.or serverClass.metadata.generateName).getD ""
        space := serverClass.metadata.space
        uid := serverClass.metadata.uid }
      addresses := []
      hostname := none } ∧
    binding.spec.metalMachineRef.key = machine.key ∧ binding.status = none
  /-- All other bindings are as before. -/
  others : ∀ name, name ≠ server →
    after.serverBindings.get? name = before.serverBindings.get? name
  /-- Besides the bindings only what stamps and counts new ones differs. -/
  frame : after = { before with
    version := after.version, nextUid := after.nextUid, bindingCreates := after.bindingCreates
    serverBindings := after.serverBindings }

theorem Store.gainsClaim_withCreated {store : Store} {machine : MetalMachine} {server : String}
    {serverClass : ServerClass} (named : machine.metadata.name.isSome = true)
    (free : store.serverBindings.get? server = none) :
    store.GainsClaim (store.withCreated (claim machine server (some (.toObject serverClass))))
      machine server serverClass where
  free := free
  bound := by
    refine ⟨_, Dict.get?_insert_self _ _ _, rfl, rfl, ?_, machine.claimant_eq_key named, rfl⟩
    rw [← Reference.toObject_metalMachine, ← Reference.toObject_serverClass]
    rfl
  others _ other := Dict.get?_insert_of_ne other _ _
  frame := rfl

/-- How a try of a machine for a server of a class ends and what it leaves behind. -/
structure Picks (machine : MetalMachine) (serverClass : ServerClass) (world : Surroundings)
    (result : Except PassError (Option String)) (later : Surroundings) : Prop where
  /-- A malformed selector is an error whatever the servers are. -/
  malformed : ∀ selector fault, serverClass.spec.selector = some selector →
    selector.fault? = some fault →
      result = .error (.malformedSelector fault) ∧ later.store = world.store
  /-- The first candidate without a binding is given. -/
  first : serverClass.spec.IsWellFormed →
    result = .ok (world.store.firstUnbound? (world.store.candidateNames serverClass))
  /-- That candidate is claimed. -/
  claimed : serverClass.spec.IsWellFormed → ∀ server,
    world.store.firstUnbound? (world.store.candidateNames serverClass) = some server →
      world.store.GainsClaim later.store machine server serverClass
  /-- Without one nothing is written. -/
  exhausted : serverClass.spec.IsWellFormed →
    world.store.firstUnbound? (world.store.candidateNames serverClass) = none →
      later.store = world.store
  /-- The candidates before it are counted as conflicts, and it as an allocation. -/
  counted : serverClass.spec.IsWellFormed → later.memory.tally =
    world.store.tallyAfter (world.store.candidateNames serverClass) world.memory.tally

section

variable {machine : MetalMachine} {reference : Reference} {serverClass : ServerClass}
  {world : Surroundings}

section

variable (classed : machine.spec.serverClassRef = some reference)
  (stored : world.store.serverClasses.get? reference.name = some serverClass)
  (nothing : world.store.HoldsNothing machine.key)

include classed stored nothing

theorem serverFromClass_run_of_malformed {selector : Selector} {fault : SelectorFault}
    (selected : serverClass.spec.selector = some selector)
    (faulty : selector.fault? = some fault) : ∃ index, (serverFromClass machine).run.run world =
      (.error (.malformedSelector fault), world.withIndex index) := by
  obtain ⟨index, ran⟩ := serverFromClass_run_of_classed classed nothing
  have stored : (world.withIndex index).store.serverClasses.get? reference.name =
      some serverClass := stored
  rw [claimFromClass_run_of_stored stored, qualifiedServers_of_malformed selected faulty] at ran
  exact ⟨index, ran⟩

/-- With a well-formed selector the candidates of the class are tried one after the other. -/
theorem serverFromClass_run_of_wellFormed (accepts : world.store.createFailure = none)
    (servers : world.store.ServersByName) (wellFormed : serverClass.spec.IsWellFormed) :
    ∃ memory, (serverFromClass machine).run.run world =
        (.ok (world.store.firstUnbound? (world.store.candidateNames serverClass)),
          (world.withStore (world.store.taking machine (some (.toObject serverClass)) (.ok
            (world.store.firstUnbound? (world.store.candidateNames serverClass))))).withMemory
              memory) ∧
      memory.tally =
        world.store.tallyAfter (world.store.candidateNames serverClass) world.memory.tally := by
  obtain ⟨index, ran⟩ := serverFromClass_run_of_classed classed nothing
  have stored : (world.withIndex index).store.serverClasses.get? reference.name =
      some serverClass := stored
  rw [claimFromClass_run_of_stored stored, qualifiedServers_eq wellFormed] at ran
  obtain ⟨memory, claims, counted⟩ := claimFirst_run machine (.toObject serverClass)
    (world.store.candidates serverClass) (world.withIndex index)
  have counted := counted accepts
  rw [Surroundings.store_withIndex, servers.triedNames_candidates] at counted
  rw [Surroundings.store_withIndex, tryFirst_of_accepts accepts, map_firstFree?,
    servers.triedNames_candidates] at claims
  exact ⟨memory, ran.trans claims, counted⟩

/-- A machine that holds nothing claims the first of its class's candidates that has no binding. -/
theorem serverFromClass_picks (accepts : world.store.createFailure = none)
    (servers : world.store.ServersByName) (named : machine.metadata.name.isSome = true) :
    Picks machine serverClass world ((serverFromClass machine).run.run world).1
      ((serverFromClass machine).run.run world).2 := by
  constructor
  case malformed =>
    intro selector fault selected faulty
    obtain ⟨index, ends⟩ :=
      serverFromClass_run_of_malformed classed stored nothing selected faulty
    rw [ends]
    exact ⟨rfl, rfl⟩
  all_goals
    intro wellFormed
    obtain ⟨memory, ends, counted⟩ :=
      serverFromClass_run_of_wellFormed classed stored nothing accepts servers wellFormed
    rw [ends]
  case claimed =>
    intro server picked
    have free : world.store.serverBindings.get? server = none := by
      simpa [isBound] using List.find?_some picked
    rw [picked]
    exact gainsClaim_withCreated named free
  case exhausted =>
    intro picked
    rw [picked]
    rfl
  case counted => exact counted

end

end

/-- A store with a class of three servers, one of them listed twice and held by another machine. -/
def scrambled : Store :=
  ((Laboratory.store ["c", "a", "b", "a"]).addServerClass
    { Laboratory.serverClass ["c", "a", "b", "a"] with metadata.uid := some "0002" }
    ).addServerBinding (claim (Laboratory.machine "other" {}) "a" none)

/-- A machine that wants a server of the class. -/
def latecomer : MetalMachine :=
  { Laboratory.machine "m" { serverClassRef := some (.ofName "pool") } with
    metadata.uid := some "0001"
    metadata.labels := some (Dict.empty.insert "team" "edge") }

/-- The class as it is stored. -/
def scrambledClass : ServerClass :=
  { Laboratory.serverClass ["c", "a", "b", "a"] with
    metadata := { name := some "pool", uid := some "0002", resourceVersion := some "6" } }

theorem candidateNames_scrambled :
    scrambled.candidateNames scrambledClass = ["a", "a", "b", "c"] := by
  have listed : scrambledClass.availableServers.filter (scrambled.isCandidate scrambledClass) =
      ["c", "a", "b", "a"] := by decide +kernel
  rw [candidateNames, listed, List.mergeSort_eq_insertionSort (· ≤ ·)]
  decide

/-- The machine meets the binding twice and claims the next server. -/
theorem serverFromClass_picks_scrambled : scrambled.createFailure = none ∧
    scrambled.ServersByName ∧ latecomer.metadata.name.isSome = true ∧
    latecomer.spec.serverClassRef = some (.ofName "pool") ∧
    scrambled.serverClasses.get? "pool" = some scrambledClass ∧
    scrambled.HoldsNothing latecomer.key ∧
    ((serverFromClass latecomer).run.run (Laboratory.surroundings scrambled {})).1 =
      .ok (some "b") ∧
    ((serverFromClass latecomer).run.run
      (Laboratory.surroundings scrambled {})).2.memory.tally =
        { allocations := 1, claimConflicts := 2 } ∧
    ∃ binding, ((serverFromClass latecomer).run.run
        (Laboratory.surroundings scrambled {})).2.store.serverBindings.get? "b" = some binding ∧
      binding.metadata.name = some "b" ∧
      binding.metadata.labels = some (Dict.empty.insert "team" "edge") ∧
      binding.spec = {
        metalMachineRef := {
          apiVersion := some "infrastructure.cluster.x-k8s.io/v1alpha3"
          kind := some "MetalMachine"
          name := "m"
          space := some "lab"
          uid := some "0001" }
        serverClassRef := some {
          apiVersion := some "metal.dcops.microscaler.io/v1alpha1"
          kind := some "ServerClass"
          name := "pool"
          uid := some "0002" } } ∧
      binding.status = none := by
  have servers : scrambled.ServersByName := by
    have all_named : scrambled.servers.entries.all
        (fun entry => entry.2.metadata.name == some entry.1) = true := by decide +kernel
    exact fun name server found =>
      beq_iff_eq.1 (List.all_eq_true.1 all_named _ (Dict.get?_eq_some_iff.1 found))
  have nothing : scrambled.HoldsNothing latecomer.key := by
    have none_held : scrambled.serverBindings.entries.all
        (fun entry => !entry.2.isHeldBy latecomer.key) = true := by decide +kernel
    exact fun name binding found => by
      simpa using List.all_eq_true.1 none_held _ (Dict.get?_eq_some_iff.1 found)
  have wellFormed : scrambledClass.spec.IsWellFormed := nofun
  have picked : scrambled.firstUnbound? (scrambled.candidateNames scrambledClass) = some "b" := by
    rw [candidateNames_scrambled]
    decide +kernel
  have picks : Picks latecomer scrambledClass (Laboratory.surroundings scrambled {}) _ _ :=
    serverFromClass_picks rfl rfl nothing rfl servers rfl
  have counted := picks.counted wellFormed
  change _ = scrambled.tallyAfter (scrambled.candidateNames scrambledClass) {} at counted
  rw [candidateNames_scrambled] at counted
  obtain ⟨binding, found, name, labels, spec, -, status⟩ :=
    (picks.claimed wellFormed "b" picked).bound
  refine ⟨rfl, servers, rfl, rfl, rfl, nothing, ?_, counted.trans ?_, binding, found, name, labels,
    spec, status⟩
  · exact (picks.first wellFormed).trans (congrArg Except.ok picked)
  · decide +kernel

end BareMetal
