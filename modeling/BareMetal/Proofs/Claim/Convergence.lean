import BareMetal.Proofs.Claim.Quiescence
import BareMetal.Proofs.Pass.Readying
import BareMetal.Proofs.Qualification

/-!
# From a request to a ready machine

A machine that can get a server is ready after three passes with nothing else writing.  The first
claims a server for it, a pass over the new binding makes the binding ready, and the third reports
that on the machine and tries the node of the server.  The node alone decides how the third ends.
-/

namespace BareMetal

open Store

variable {store later : Store} {nodes nodes' : Nodes} {now : Timestamp}
  {machine copy : MetalMachine} {server name className : String} {binding : ServerBinding}
  {serverClass : ServerClass} {world : Surroundings}

/-! ## Nodes -/

/-- How many nodes run on a server. -/
def Nodes.number (nodes : Nodes) (uuid : String) : Nat := ((nodes.get? uuid).getD []).length

theorem Nodes.stamp_of_one (one : nodes.number server = 1) (providerId : String) :
    nodes.stamp server providerId = (.ok (), nodes.insert server [some providerId]) := by
  obtain ⟨node, entries⟩ := List.length_eq_one_iff.1 one
  rw [stamp, entries]

theorem Nodes.stamp_of_not_one (several : nodes.number server ≠ 1) (providerId : String) :
    ∃ error, nodes.stamp server providerId = (.error error, nodes) := by
  unfold number at several
  unfold stamp
  split
  · exact ⟨_, rfl⟩
  · rename_i entries
    simp [entries] at several
  · exact ⟨_, rfl⟩

theorem Nodes.type_report (nodes : Nodes) (server : String) :
    (nodes.report server).type = Condition.providerSetType := by
  unfold report
  split <;> rfl

/-- The provider ID of the only node of a server is set. -/
theorem Nodes.tried_of_one (one : nodes.number server = 1) :
    nodes.outcome server = .done ∧ (nodes.report server).status = .holds ∧
      nodes.stamped server = nodes.insert server [some ("metal://" ++ server)] := by
  have stamps := stamp_of_one one (MetalMachine.providerIdFor server)
  refine ⟨?_, ?_, ?_⟩
  · rw [outcome, stamps]
  · rw [report, stamps]
  · rw [stamped, stamps]
    rfl

/-- Without exactly one node of the server no provider ID is set. -/
theorem Nodes.tried_of_not_one (several : nodes.number server ≠ 1) :
    nodes.outcome server = .requeue .providerIdNotSet ∧ (nodes.report server).status = .fails ∧
      nodes.stamped server = nodes := by
  obtain ⟨error, fails⟩ := stamp_of_not_one several (MetalMachine.providerIdFor server)
  refine ⟨?_, ?_, ?_⟩
  · rw [outcome, fails]
  · rw [report, fails]
  · rw [stamped, fails]

/-! ## The server that is claimed -/

/-- All servers of a store go by the names that they lie under. -/
def Store.NamesServers (store : Store) : Prop :=
  ∀ name server, store.servers.get? name = some server → server.anyName = name

/-- A pass over a machine claims a server: the one that the machine names and may hold, or the one
that its class offers while the machine holds nothing. -/
inductive Store.Promises (store : Store) (machine : MetalMachine) (server : String) : Prop
  /-- The machine names the server. -/
  | named (names : machine.namedServer? = some server)
      (free : store.mayHold machine.key server = .ok false)
  /-- The class offers the server. -/
  | offered {reference : Reference} (nameless : machine.spec.serverRef = none)
      (classed : machine.spec.serverClassRef = some reference)
      (nothing : store.HoldsNothing machine.key)
      (offered : store.offer reference.name = .ok (some server))

theorem unbound_of_mayHold {key : ObjectKey} (free : store.mayHold key server = .ok false) :
    store.serverBindings.get? server = none := by
  cases bound : store.serverBindings.get? server with
  | none => rfl
  | some binding => cases held : binding.isHeldBy key <;> simp [mayHold, bound, held] at free

/-- A machine that names a server is promised no other one. -/
theorem Store.Promises.of_named (promises : store.Promises machine server) :
    ∀ name ∈ machine.namedServer?, name = server := by
  intro name names
  cases promises with
  | named names_too => exact Option.some.inj (names.symm.trans names_too)
  | offered nameless => exact absurd nameless (machine.ne_none_of_named names)

/-- Work on a machine claims the server that is promised to it. -/
theorem Works.claims_promised (promises : store.Promises machine server)
    (works : Works store nodes now machine copy later nodes') :
    copy.namedServer? = some server ∧ nodes' = nodes ∧
      ∃ reference, later = store.withCreated (claim machine server reference) := by
  cases promises with
  | named names free =>
      have named := machine.ne_none_of_named names
      cases works with
      | invalid nameless | unserved nameless | allocates nameless => exact absurd nameless named
      | refused names_too refuses =>
          rw [Option.some.inj (names_too.symm.trans names), free] at refuses
          contradiction
      | claims names_too =>
          obtain rfl := Option.some.inj (names_too.symm.trans names)
          exact ⟨(machine.namedServer?_withVersion_prepared none).trans names, rfl, _, rfl⟩
      | waits asks bound | reports asks bound =>
          rw [asks.named names, unbound_of_mayHold free] at bound
          contradiction
  | offered nameless classed nothing offered =>
      cases works with
      | invalid _ classless =>
          rw [classless] at classed
          contradiction
      | refused names | claims names => exact absurd nameless (machine.ne_none_of_named names)
      | unserved _ classed_too _ unoffered =>
          rw [Option.some.inj (classed.symm.trans classed_too)] at offered
          exact absurd offered (unoffered server)
      | allocates _ classed_too _ offered_too reference =>
          rw [Option.some.inj (classed.symm.trans classed_too), offered_too] at offered
          obtain rfl := Option.some.inj (Except.ok.inj offered)
          exact ⟨machine.namedServer?_holding (.inr ⟨nameless, Option.isSome_of_eq_some classed⟩),
            rfl, reference, rfl⟩
      | waits _ bound held | reports _ bound held =>
          rw [nothing _ _ bound] at held
          contradiction

/-- A class with a server that qualifies, is free and clean and has no binding offers one, maybe
another one. -/
theorem Store.offers_of_free (accepts : store.createFailure = none) (servers : store.NamesServers)
    (stored : store.serverClasses.get? className = some serverClass)
    (wellFormed : serverClass.spec.IsWellFormed) {free : Server}
    (listed : name ∈ serverClass.availableServers)
    (found : store.servers.get? name = some free)
    (qualifies : free.qualifies serverClass.spec = .ok true)
    (claimable : free.isClaimable = true)
    (unbound : store.serverBindings.get? name = none) :
    ∃ server, store.offer className = .ok (some server) ∧
      store.serverBindings.get? server = none ∧
        (store.servers.get? server).isSome = true := by
  have belongs : free.belongs serverClass.spec = true := by rw [Server.belongs, qualifies]
  have member : free ∈ store.candidates serverClass :=
    mem_candidates.2 ⟨⟨name, listed, found⟩, belongs⟩
  have fits : (free.isClaimable && (store.serverBindings.get? free.anyName).isNone) = true := by
    rw [claimable, servers name free found, unbound]
    rfl
  obtain ⟨first, picked⟩ : ∃ first, store.firstFree? (store.candidates serverClass) = some first :=
    Option.isSome_iff_exists.1 (List.find?_isSome.2 ⟨free, member, fits⟩)
  have fits_first := List.find?_some picked
  obtain ⟨⟨other, _, found_first⟩, _⟩ := mem_candidates.1 (List.mem_of_find?_eq_some picked)
  obtain rfl : first.anyName = other := servers other first found_first
  refine ⟨first.anyName, ?_, ?_, ?_⟩
  · rw [offer, stored]
    dsimp only
    rw [qualifiedServers_eq wellFormed]
    exact (tryFirst_of_accepts accepts _).trans
      (congrArg (fun found => Except.ok (found.map Server.anyName)) picked)
  · exact Option.isNone_iff_eq_none.1 (Bool.and_eq_true_iff.1 fits_first).2
  · rw [found_first]
    rfl

/-- A machine can get a server. -/
inductive Store.CanServe (store : Store) (machine : MetalMachine) : Prop
  /-- The machine names a server that is accepted and has no binding. -/
  | named {reference : Reference} {server : Server}
      (named : machine.spec.serverRef = some reference)
      (stored : store.servers.get? reference.name = some server)
      (accepted : server.isAccepted = true)
      (unbound : store.serverBindings.get? reference.name = none)
  /-- The machine holds nothing and names a class that lists a server which qualifies, is free and
  clean, and has no binding. -/
  | classed {reference : Reference} {serverClass : ServerClass} {name : String} {server : Server}
      (nameless : machine.spec.serverRef = none)
      (classed : machine.spec.serverClassRef = some reference)
      (nothing : store.HoldsNothing machine.key)
      (stored : store.serverClasses.get? reference.name = some serverClass)
      (wellFormed : serverClass.spec.IsWellFormed)
      (listed : name ∈ serverClass.availableServers)
      (found : store.servers.get? name = some server)
      (qualifies : server.qualifies serverClass.spec = .ok true)
      (claimable : server.isClaimable = true)
      (unbound : store.serverBindings.get? name = none)

/-- A machine that can get a server has one promised, which is there and has no binding. -/
theorem Store.CanServe.promises (serves : store.CanServe machine)
    (accepts : store.createFailure = none) (servers : store.NamesServers) :
    ∃ server, store.Promises machine server ∧ store.serverBindings.get? server = none ∧
      (store.servers.get? server).isSome = true := by
  cases serves with
  | @named reference server named stored accepted unbound =>
      have free : store.mayHold machine.key reference.name = .ok false := by
        simp [mayHold, unbound, stored, accepted, accepts]
      refine ⟨reference.name, .named (namedServer?_of_serverRef named) free, unbound, ?_⟩
      rw [stored]
      rfl
  | classed nameless classed nothing stored wellFormed listed found qualifies claimable unbound =>
      obtain ⟨server, offered, unbound_server, there⟩ := offers_of_free accepts servers stored
        wellFormed listed found qualifies claimable unbound
      exact ⟨server, .offered nameless classed nothing offered, unbound_server, there⟩

/-! ## One pass after the other -/

/-- A pass over a machine that has a server promised claims it: the machine names the server and
holds it by a new binding. -/
theorem machinePass_claims_promised (employs : world.store.Employs machine)
    (promises : world.store.Promises machine server) : ∃ last binding,
      ((machinePass machine.key).run world).2.nodes = world.nodes ∧
      ((machinePass machine.key).run world).2.store.servers = world.store.servers ∧
      ((machinePass machine.key).run world).2.store.serverBindings =
        world.store.serverBindings.insert server binding ∧
      ((machinePass machine.key).run world).2.store.Employs last ∧
      last.key = machine.key ∧
      ((machinePass machine.key).run world).2.store.HoldsBy last server binding := by
  obtain ⟨copy, middle, version, works, commits, employs_next, key_eq⟩ := employs.pass
  obtain ⟨names, same_nodes, reference, rfl⟩ := works.claims_promised promises
  have same_bindings := serverBindings_frame commits.frame
  refine ⟨copy.withVersion version, world.store.createdBinding (claim machine server reference),
    same_nodes, ?_, same_bindings, employs_next, key_eq,
    holdsBy_claimed same_bindings employs.named names key_eq⟩
  rw [commits.frame]
  rfl

theorem Store.Employs.of_readies (employs : store.Employs machine)
    (readies : Readies name binding store later) (named : binding.anyName = name) :
    later.Employs machine where
  found := by
    rw [readies.frame]
    exact employs.found
  stays := employs.stays
  admitted := by
    rw [readies.frame]
    exact employs.admitted
  named := employs.named
  bindings := readies.namesBindings named employs.bindings

theorem Store.HoldsBy.of_readies (holds : store.HoldsBy machine server binding)
    (readies : Readies server binding store later) :
    ∃ ready, later.HoldsBy machine server ready ∧ ready.isReady = true := by
  obtain ⟨version, own⟩ := readies.own
  exact ⟨_, ⟨holds.named, own, holds.held⟩, binding.isReady_withReady⟩

/-- Getting a machine on its way that holds a server whose binding is ready ends as the node says. -/
theorem allocate_outcome_of_ready (holds : world.store.HoldsBy machine server binding)
    (ready : binding.isReady = true) (cluster : ObjectKey) :
    ((allocate machine cluster).run world).1.1 = .ok (world.nodes.outcome server) := by
  obtain ⟨reference, named, rfl⟩ := Option.map_eq_some_iff.1 holds.named
  have names : machine.prepared.namedServer? = some reference.name := by
    rw [← holds.named]
    exact machine.namedServer?_withVersion_prepared none
  obtain ⟨memory, ensured⟩ := ensureNamed_run names world
  rw [machine.key_prepared, mayHold_of_holdsBy holds] at ensured
  have allocates : allocate machine cluster =
      allocateNamed machine.prepared cluster reference.name := by
    unfold allocate
    dsimp only
    rw [machine.spec_addFinalizer, named]
    rfl
  rw [allocates]
  unfold allocateNamed
  rw [Pass.run_bind_of ensured]
  exact congrArg (fun ended => ended.1.1)
    (reportReady_run_of_ready world holds.bound ready machine.prepared cluster)

/-- A pass over a machine that holds a server whose binding is ready reports that on the machine and
tries the node of the server. -/
theorem machinePass_reports_ready (employs : world.store.Employs machine)
    (holds : world.store.HoldsBy machine server binding) (ready : binding.isReady = true) :
    ∃ version,
      ((machinePass machine.key).run world).1 = .ok (world.nodes.outcome server) ∧
      ((machinePass machine.key).run world).2.nodes = world.nodes.stamped server ∧
      ((machinePass machine.key).run world).2.store.serverBindings = world.store.serverBindings ∧
      ((machinePass machine.key).run world).2.store.metalMachines.get? machine.key =
        some (((machine.holding server).updateStatus (·.report binding
          ((world.nodes.report server).since world.time))).withVersion version) := by
  obtain ⟨cluster, result, copy, now, later, allocated, works, commits, ran⟩ :=
    machinePass_run_of_admitted employs.found employs.stays employs.bindings employs.admitted
  have holds_seeing : (world.seeing machine).store.HoldsBy machine server binding := holds
  have ended := allocate_outcome_of_ready holds_seeing ready cluster
  rw [allocated] at ended
  obtain ⟨same_store, ⟨unready, _⟩ | ⟨_, rfl, same_nodes⟩⟩ := works_of_holdsBy holds works
  · rw [ready] at unready
    contradiction
  · obtain ⟨version, own⟩ := commits.own
    rw [ran]
    exact ⟨version, ended, same_nodes, (serverBindings_frame commits.frame).trans
      (congrArg Store.serverBindings same_store), own⟩

/-! ## Three passes -/

/-- Two surroundings have the same objects and the same nodes. -/
structure Surroundings.Agrees (world other : Surroundings) : Prop where
  store : world.store = other.store
  nodes : world.nodes = other.nodes

/-- A machine is ready with a server, and its condition on the provider ID has a status. -/
structure MetalMachine.IsReadyWith (machine : MetalMachine) (server : String)
    (providerSet : ConditionStatus) : Prop where
  guarded : machine.hasFinalizer = true
  named : machine.namedServer? = some server
  provided : machine.spec.providerId = some ("metal://" ++ server)
  reported : ∃ status, machine.status = some status ∧ status.ready = true ∧
    (Condition.find? status.conditions Condition.providerSetType).map Condition.status =
      some providerSet

/-- The last pass over the machine of a key left it ready with a server that it holds by a ready
binding, and the one node that runs on the server carries its provider ID.  Without such a node the
pass waits for it. -/
structure Converged (nodes : Nodes) (key : ObjectKey) (server : String)
    (ended : Except PassError Outcome × Surroundings) : Prop where
  /-- The machine holds the server by a ready binding. -/
  holds : ∃ binding, ended.2.store.serverBindings.get? server = some binding ∧
    binding.isReady = true ∧ binding.isHeldBy key = true
  /-- The node is stamped if there is exactly one. -/
  one : nodes.number server = 1 → ended.1 = .ok .done ∧
    ended.2.nodes = nodes.insert server [some ("metal://" ++ server)] ∧
      ∃ machine, ended.2.store.metalMachines.get? key = some machine ∧
        machine.IsReadyWith server .holds
  /-- Otherwise the machine tells of the failure. -/
  other : nodes.number server ≠ 1 → ended.1 = .ok (.requeue .providerIdNotSet) ∧
    ended.2.nodes = nodes ∧
      ∃ machine, ended.2.store.metalMachines.get? key = some machine ∧
        machine.IsReadyWith server .fails

/-- A machine that a report on the provider ID was written on is ready with its server. -/
theorem isReadyWith_reported (holds : store.HoldsBy machine server binding)
    (report : Condition) (provider : report.type = Condition.providerSetType)
    (version : Option String) :
    (((machine.holding server).updateStatus (·.report binding report)).withVersion
      version).IsReadyWith server report.status where
  guarded := machine.hasFinalizer_prepared
  named := machine.namedServer?_holding (.inl holds.named)
  provided := rfl
  reported := by
    refine ⟨_, rfl, rfl, ?_⟩
    rw [← provider]
    exact Condition.status_find?_set _ report

/-- The pass that reports a ready binding leaves the machine ready. -/
theorem converged_of_ready (employs : world.store.Employs machine)
    (holds : world.store.HoldsBy machine server binding) (ready : binding.isReady = true) :
    Converged world.nodes machine.key server ((machinePass machine.key).run world) := by
  obtain ⟨version, ended, stamped, same_bindings, own⟩ :=
    machinePass_reports_ready employs holds ready
  have is_ready := isReadyWith_reported holds ((world.nodes.report server).since world.time)
    (world.nodes.type_report server) version
  refine ⟨⟨binding, ?_, ready, holds.held⟩, fun one => ?_, fun several => ?_⟩
  · rw [same_bindings]
    exact holds.bound
  · obtain ⟨outcome, status, nodes⟩ := Nodes.tried_of_one one
    refine ⟨by rw [ended, outcome], by rw [stamped, nodes], _, own, ?_⟩
    rw [← status]
    exact is_ready
  · obtain ⟨outcome, status, nodes⟩ := Nodes.tried_of_not_one several
    refine ⟨by rw [ended, outcome], by rw [stamped, nodes], _, own, ?_⟩
    rw [← status]
    exact is_ready

/-- The passes that follow each other with nothing else writing bring a machine to a server. -/
def Surroundings.ConvergesTo (first : Surroundings) (machine : ObjectKey) (server : String) :
    Prop :=
  ∀ second third : Surroundings, second.Agrees ((machinePass machine).run first).2 →
    third.Agrees ((bindingPass server).run second).2 →
      Converged first.nodes machine server ((machinePass machine).run third)

/-- A machine that can get a server and is let through the gates is ready after three passes with
nothing else writing, whatever the allocator remembers: one over the machine, which binds some
server, one over the new binding, and another one over the machine.  If the machine names a server
it is bound to that one. -/
theorem three_passes_converge {first : Surroundings} (servers : first.store.NamesServers)
    (bindings : first.store.NamesBindings) (accepts : first.store.createFailure = none)
    (found : first.store.metalMachines.get? machine.key = some machine)
    (named : machine.metadata.name.isSome = true) (stays : machine.isDeleting = false)
    (admitted : first.store.Admits machine) (serves : first.store.CanServe machine) :
    ∃ server, (∀ name ∈ machine.namedServer?, name = server) ∧
      first.store.serverBindings.get? server = none ∧
      (∃ binding, binding.isHeldBy machine.key = true ∧
        ((machinePass machine.key).run first).2.store.serverBindings =
          first.store.serverBindings.insert server binding) ∧
      first.ConvergesTo machine.key server := by
  have employs : first.store.Employs machine := ⟨found, stays, admitted, named, bindings⟩
  obtain ⟨server, promises, unbound, there⟩ := serves.promises accepts servers
  obtain ⟨last, binding, same_nodes, same_servers, bound, employs_second, key_eq, holds⟩ :=
    machinePass_claims_promised employs promises
  refine ⟨server, promises.of_named, unbound, ⟨binding, key_eq ▸ holds.held, bound⟩, ?_⟩
  intro second third second_agrees third_agrees
  rw [← second_agrees.store] at same_servers employs_second holds
  rw [← second_agrees.nodes] at same_nodes
  obtain ⟨stored, found_server⟩ := Option.isSome_iff_exists.1 there
  rw [← same_servers] at found_server
  have named_binding : binding.anyName = server := employs_second.bindings _ _ holds.bound
  obtain ⟨later, ran, readies⟩ :=
    bindingPass_run_of_present holds.bound named_binding found_server
  have third_store : third.store = later := by
    rw [third_agrees.store, ran]
    rfl
  have third_nodes : third.nodes = first.nodes := by
    rw [third_agrees.nodes, ran, ← same_nodes]
    rfl
  obtain ⟨ready, holds_third, is_ready⟩ := holds.of_readies readies
  have employs_third := employs_second.of_readies readies named_binding
  rw [← third_store] at holds_third employs_third
  rw [← third_nodes, ← key_eq]
  exact converged_of_ready employs_third holds_third is_ready

/-- A store with a class of one server and a machine that wants a server of it. -/
def promised : Store :=
  (Laboratory.store ["s"]).addMetalMachine
    (Laboratory.machine "a" { serverClassRef := some (.ofName "pool") })

/-- That machine as it is stored. -/
def promisedMachine : MetalMachine :=
  { Laboratory.machine "a" { serverClassRef := some (.ofName "pool") } with
    metadata := { (Laboratory.machine "a" {}).metadata with
      resourceVersion := some "3"
      uid := some (Text.uuid 0) } }

/-- Surroundings with one node for the server. -/
def promising : Surroundings :=
  { Laboratory.surroundings promised {} with nodes := Nodes.add Dict.empty "s" }

/-- The surroundings after a pass over the machine and a pass over the binding. -/
def promisingLater : Surroundings :=
  ((bindingPass "s").run ((machinePass (Laboratory.key "a")).run promising).2).2

theorem promised_namesServers : promised.NamesServers := by
  have all_named : promised.servers.entries.all (fun entry => entry.2.anyName == entry.1) = true :=
    by decide +kernel
  exact fun name server found =>
    beq_iff_eq.1 (List.all_eq_true.1 all_named _ (Dict.get?_eq_some_iff.1 found))

theorem promised_serves : promised.CanServe promisedMachine := by
  have nothing : promised.HoldsNothing promisedMachine.key := fun _ _ bound => nomatch bound
  have wellFormed : (Laboratory.serverClass ["s"]).spec.IsWellFormed := nofun
  exact .classed rfl rfl nothing rfl wellFormed (List.mem_singleton.2 rfl) rfl rfl rfl rfl

/-- The machine gets the server, and the node of the server is stamped. -/
theorem three_passes_converge_promised : promised.NamesServers ∧ promised.NamesBindings ∧
    promised.createFailure = none ∧
    promised.metalMachines.get? promisedMachine.key = some promisedMachine ∧
    promisedMachine.metadata.name.isSome = true ∧ promisedMachine.isDeleting = false ∧
    promised.Admits promisedMachine ∧ promised.CanServe promisedMachine ∧
    ((machinePass (Laboratory.key "a")).run promisingLater).1 = .ok .done := by
  have bindings : promised.NamesBindings := fun _ _ bound => nomatch bound
  have admitted : promised.Admits promisedMachine :=
    ⟨Laboratory.key "owner", Laboratory.owner, "cluster", Laboratory.cluster, rfl, rfl, rfl, rfl,
      rfl, rfl, rfl⟩
  refine ⟨promised_namesServers, bindings, rfl, rfl, rfl, rfl, admitted, promised_serves, ?_⟩
  have servers : promising.store.NamesServers := promised_namesServers
  obtain ⟨server, _, _, ⟨binding, _, bound⟩, converges⟩ :=
    three_passes_converge servers bindings rfl rfl rfl rfl admitted promised_serves
  have keys : ((machinePass promisedMachine.key).run promising).2.store.serverBindings.keys =
      ["s"] := by decide +kernel
  rw [bound] at keys
  obtain rfl : server = "s" := List.head_eq_of_cons_eq keys
  exact ((converges _ promisingLater ⟨rfl, rfl⟩ ⟨rfl, rfl⟩).one rfl).1

end BareMetal
