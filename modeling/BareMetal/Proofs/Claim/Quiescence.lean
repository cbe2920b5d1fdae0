import BareMetal.Proofs.Claim.Turning
import BareMetal.Proofs.Fleet

/-!
# Passes that have nothing left to write

After two passes over a machine that is not marked for deletion the third writes nothing, whatever
the first two came to, with one exception.  The conditions of a binding are reported on the machine
in front of the pass's own report on the provider ID.  If the binding reports on it too, and the
other way, then the machine's condition changes its status twice in every pass, and its time is
always that of the last pass.
-/

namespace BareMetal

open Store

variable {store later : Store} {nodes nodes' : Nodes} {now : Timestamp}
  {machine copy : MetalMachine} {server : String} {binding : ServerBinding} {key : ObjectKey}

/-! ## Copies that differ no more -/

namespace MetalMachine

/-- A machine is reported to ask for no server at all. -/
def isInvalid (machine : MetalMachine) : Bool :=
  machine.status.any fun status => status.failureReason == some invalidConfiguration

/-- A machine as the store keeps it under another version. -/
def withVersion (machine : MetalMachine) (version : Option String) : MetalMachine :=
  { machine with metadata.resourceVersion := version }

theorem prepared_eq_self (guarded : machine.hasFinalizer = true)
    (valid : machine.isInvalid = false) : machine.prepared = machine := by
  have same : machine.addFinalizer = machine := if_pos guarded
  rw [prepared, same]
  exact if_neg (by simpa [isInvalid] using valid)

theorem hasFinalizer_prepared (machine : MetalMachine) : machine.prepared.hasFinalizer = true := by
  rw [← machine.hasFinalizer_addFinalizer]
  exact hasFinalizer_congr (congrArg Metadata.finalizers machine.metadata_prepared)

theorem isInvalid_prepared (machine : MetalMachine) : machine.prepared.isInvalid = false := by
  unfold prepared clearInvalid
  split
  · rfl
  · rename_i valid
    exact Bool.eq_false_iff.2 valid

theorem withVersion_prepared (machine : MetalMachine) (version : Option String) :
    (machine.prepared.withVersion version).prepared = machine.prepared.withVersion version :=
  prepared_eq_self machine.hasFinalizer_prepared machine.isInvalid_prepared

theorem holding_eq_self (prepared : machine.prepared = machine)
    (names : machine.spec.serverRef.isSome = true)
    (provided : machine.spec.providerId = some (providerIdFor server)) :
    machine.holding server = machine := by
  obtain ⟨reference, found⟩ := Option.isSome_iff_exists.1 names
  rw [holding_of_named found, prepared, ← provided]

theorem withVersion_holding (machine : MetalMachine) (server : String)
    (version : Option String) : ((machine.holding server).withVersion version).holding server =
      (machine.holding server).withVersion version := by
  apply holding_eq_self
  · exact prepared_eq_self machine.hasFinalizer_prepared machine.isInvalid_prepared
  · simp [withVersion, holding]
  · rfl

/-- A report says nothing about what a machine asks for. -/
theorem isInvalid_report (valid : machine.isInvalid = false) (condition : Condition) :
    (machine.updateStatus (·.report binding condition)).isInvalid = false := by
  cases found : machine.status with
  | none =>
      simp [isInvalid, updateStatus, currentStatus, found, MetalMachineStatus.report,
        MetalMachineStatus.becomeReady, MetalMachineStatus.setCondition]
  | some status =>
      simpa [isInvalid, updateStatus, currentStatus, found, MetalMachineStatus.report,
        MetalMachineStatus.becomeReady, MetalMachineStatus.setCondition] using valid

theorem namedServer?_holding (asks : machine.Asks server) :
    (machine.holding server).namedServer? = some server := by
  rcases asks with named | ⟨nameless, _⟩
  · obtain ⟨reference, found, same⟩ := Option.map_eq_some_iff.1 named
    simp [namedServer?, holding, found, same]
  · simp [namedServer?, holding, nameless, Reference.ofName]

end MetalMachine

/-! ## Machines at rest -/

/-- The machine holds the server that it names, by a binding. -/
structure Store.HoldsBy (store : Store) (machine : MetalMachine) (server : String)
    (binding : ServerBinding) : Prop where
  named : machine.namedServer? = some server
  bound : store.serverBindings.get? server = some binding
  held : binding.isHeldBy machine.key = true

theorem Store.HoldsBy.server_unique {other : String} {present : ServerBinding}
    (holds : store.HoldsBy machine server binding)
    (holds_too : store.HoldsBy machine other present) : other = server ∧ present = binding := by
  have same : other = server := Option.some.inj (holds_too.named.symm.trans holds.named)
  subst same
  exact ⟨rfl, Option.some.inj (holds_too.bound.symm.trans holds.bound)⟩

/-- Work on a machine changes nothing, at no time, and the machine holds no server whose binding
is ready. -/
structure AtRest (store : Store) (nodes : Nodes) (machine : MetalMachine) : Prop where
  still : ∀ now copy later nodes', Works store nodes now machine copy later nodes' →
    copy = machine ∧ later = store ∧ nodes' = nodes
  unready : ∀ server binding, store.HoldsBy machine server binding → binding.isReady = false

theorem MetalMachine.ne_none_of_named (named : machine.namedServer? = some server) :
    machine.spec.serverRef ≠ none := by
  intro nameless
  rw [namedServer?, nameless] at named
  contradiction

theorem mayHold_of_holdsBy (holds : store.HoldsBy machine server binding) :
    store.mayHold machine.key server = .ok true := by
  rw [mayHold, holds.bound]
  exact if_pos holds.held

theorem MetalMachine.Asks.named {other : String} (asks : machine.Asks server)
    (named : machine.namedServer? = some other) : server = other := by
  rcases asks with asked | ⟨nameless, _⟩
  · exact Option.some.inj (asked.symm.trans named)
  · exact absurd nameless (machine.ne_none_of_named named)

theorem atRest_of_invalid (nameless : machine.spec.serverRef = none)
    (classless : machine.spec.serverClassRef = none)
    (same : machine.addFinalizer.reportInvalid = machine) : AtRest store nodes machine where
  still now copy later nodes' works := by
    cases works with
    | invalid => exact ⟨same, rfl, rfl⟩
    | refused named | claims named => exact absurd nameless (machine.ne_none_of_named named)
    | unserved _ classed | allocates _ classed =>
        rw [classless] at classed
        contradiction
    | waits asks | reports asks =>
        rcases asks with named | ⟨_, classed⟩
        · exact absurd nameless (machine.ne_none_of_named named)
        · rw [classless] at classed
          contradiction
  unready server binding holds := absurd nameless (machine.ne_none_of_named holds.named)

theorem atRest_of_refused {error : PassError} (named : machine.namedServer? = some server)
    (refuses : store.mayHold machine.key server = .error error)
    (same : machine.prepared = machine) : AtRest store nodes machine := by
  have not_held : ∀ other binding, ¬store.HoldsBy machine other binding := by
    intro other binding holds
    have same_server : server = other := Option.some.inj (named.symm.trans holds.named)
    rw [same_server, mayHold_of_holdsBy holds] at refuses
    contradiction
  have names := machine.ne_none_of_named named
  constructor
  · intro now copy later nodes' works
    cases works with
    | invalid nameless | unserved nameless | allocates nameless => exact absurd nameless names
    | refused => exact ⟨same, rfl, rfl⟩
    | claims named_too free =>
        rw [Option.some.inj (named_too.symm.trans named), refuses] at free
        contradiction
    | waits asks bound held | reports asks bound held =>
        have same_server := asks.named named
        subst same_server
        exact absurd ⟨named, bound, held⟩ (not_held _ _)
  · intro other binding holds
    exact absurd holds (not_held other binding)

theorem atRest_of_unserved {serverClass : Reference} (nameless : machine.spec.serverRef = none)
    (classed : machine.spec.serverClassRef = some serverClass)
    (nothing : store.HoldsNothing machine.key)
    (unoffered : ∀ server, store.offer serverClass.name ≠ .ok (some server))
    (same : machine.prepared = machine) : AtRest store nodes machine := by
  constructor
  · intro now copy later nodes' works
    cases works with
    | invalid _ classless =>
        rw [classless] at classed
        contradiction
    | refused named | claims named => exact absurd nameless (machine.ne_none_of_named named)
    | unserved => exact ⟨same, rfl, rfl⟩
    | allocates _ classed_too _ offered =>
        rw [Option.some.inj (classed_too.symm.trans classed)] at offered
        exact absurd offered (unoffered _)
    | waits _ bound held | reports _ bound held =>
        rw [nothing _ _ bound] at held
        contradiction
  · intro server binding holds
    exact absurd nameless (machine.ne_none_of_named holds.named)

/-- Work on a machine that holds the server that it names waits until the binding is ready and
reports then. -/
theorem works_of_holdsBy (holds : store.HoldsBy machine server binding)
    (works : Works store nodes now machine copy later nodes') : later = store ∧
      (binding.isReady = false ∧ copy = machine.holding server ∧ nodes' = nodes ∨
        binding.isReady = true ∧ copy = (machine.holding server).updateStatus
          (·.report binding ((nodes.report server).since now)) ∧
            nodes' = nodes.stamped server) := by
  have names := machine.ne_none_of_named holds.named
  have may := mayHold_of_holdsBy holds
  cases works with
  | invalid nameless | unserved nameless | allocates nameless => exact absurd nameless names
  | refused named refuses =>
      rw [Option.some.inj (named.symm.trans holds.named), may] at refuses
      contradiction
  | claims named free =>
      rw [Option.some.inj (named.symm.trans holds.named), may] at free
      simp at free
  | waits asks bound _ unready =>
      rw [asks.named holds.named, holds.bound] at bound
      obtain rfl := Option.some.inj bound
      rw [asks.named holds.named]
      exact ⟨rfl, .inl ⟨unready, rfl, rfl⟩⟩
  | reports asks bound _ ready =>
      rw [asks.named holds.named, holds.bound] at bound
      obtain rfl := Option.some.inj bound
      rw [asks.named holds.named]
      exact ⟨rfl, .inr ⟨ready, rfl, rfl⟩⟩

theorem atRest_of_unready (holds : store.HoldsBy machine server binding)
    (unready : binding.isReady = false) (same : machine.holding server = machine) :
    AtRest store nodes machine := by
  constructor
  · intro now copy later nodes' works
    obtain ⟨same_store, ⟨_, waits, same_nodes⟩ | ⟨ready, _⟩⟩ := works_of_holdsBy holds works
    · exact ⟨waits.trans same, same_store, same_nodes⟩
    · rw [unready] at ready
      contradiction
  · intro other present holds_too
    obtain ⟨rfl, rfl⟩ := holds.server_unique holds_too
    exact unready

/-! ## Pass after pass -/

/-- A machine as a pass finds it that gets to work on it. -/
structure Store.Employs (store : Store) (machine : MetalMachine) : Prop where
  found : store.metalMachines.get? machine.key = some machine
  stays : machine.isDeleting = false
  admitted : store.Admits machine
  named : machine.metadata.name.isSome = true
  bindings : store.NamesBindings

/-- The node of a machine's server was tried and the result was reported at some time. -/
structure ReportedAt (store : Store) (nodes : Nodes) (machine : MetalMachine) (server : String)
    (binding : ServerBinding) (now : Timestamp) : Prop
    extends store.HoldsBy machine server binding where
  ready : binding.isReady = true
  settled : machine.holding server = machine
  reported : ∃ status : MetalMachineStatus,
    machine.status = some (status.report binding ((nodes.report server).since now))

/-- What a pass that worked on a machine leaves to the next. -/
inductive Leaves (store : Store) (nodes : Nodes) (machine : MetalMachine) (now : Timestamp) : Prop
  /-- There is nothing left to do. -/
  | rests (rest : AtRest store nodes machine)
  /-- The server that the machine names was claimed; the machine has no provider ID yet. -/
  | claimed {server : String} {binding : ServerBinding}
      (holds : store.HoldsBy machine server binding) (unready : binding.isReady = false)
  /-- The binding is ready. -/
  | reported {server : String} {binding : ServerBinding}
      (report : ReportedAt store nodes machine server binding now)

/-- A report at another time changes the machine unless the times are equal or the binding does not
contradict the report. -/
theorem ReportedAt.report_eq_iff (report : ReportedAt store nodes machine server binding now)
    (next : Timestamp) : machine.updateStatus
        (·.report binding ((nodes.report server).since next)) = machine ↔
      now = next ∨ ¬Condition.Contradicts binding.conditions (nodes.report server) := by
  obtain ⟨status, reported⟩ := report.reported
  rw [← Condition.foldl_set_again_eq_iff status.conditions,
    ← MetalMachineStatus.report_report_eq_iff]
  constructor
  · intro same
    have same_status := congrArg MetalMachine.status same
    rw [MetalMachine.updateStatus, MetalMachine.currentStatus, reported] at same_status
    exact Option.some.inj same_status
  · intro same
    change { machine with status := some ((machine.status.getD {}).report binding _) } = machine
    rw [reported, Option.getD_some, same, ← reported]

section

variable {version : Option String}
  (frame : later = { store with version := later.version, metalMachines := later.metalMachines })

include frame

theorem mayHold_frame (key : ObjectKey) (server : String) :
    later.mayHold key server = store.mayHold key server := by
  rw [frame]
  rfl

theorem offer_frame (className : String) : later.offer className = store.offer className := by
  rw [frame]
  rfl

theorem serverBindings_frame : later.serverBindings = store.serverBindings := by
  rw [frame]

end

theorem MetalMachine.key_withVersion_prepared (machine : MetalMachine) (version : Option String) :
    (machine.prepared.withVersion version).key = machine.key :=
  machine.key_prepared

theorem MetalMachine.namedServer?_withVersion_prepared (machine : MetalMachine)
    (version : Option String) :
    (machine.prepared.withVersion version).namedServer? = machine.namedServer? :=
  congrArg (fun spec : MetalMachineSpec => spec.serverRef.map Reference.name) machine.spec_prepared

/-- A machine that claimed the server that it names holds it. -/
theorem holdsBy_claimed {reference : Option Reference}
    (same_bindings : later.serverBindings =
      (store.withCreated (claim machine server reference)).serverBindings)
    (named : machine.metadata.name.isSome = true) (names : copy.namedServer? = some server)
    (key_eq : copy.key = machine.key) :
    later.HoldsBy copy server (store.createdBinding (claim machine server reference)) where
  named := names
  bound := by
    rw [same_bindings]
    exact Dict.get?_insert_self _ _ _
  held := by
    rw [key_eq]
    exact ServerBinding.isHeldBy_iff.2 (holder_claim named server reference)

/-- A machine that is written back with the server that it holds goes on holding it. -/
theorem holdsBy_holding (same_bindings : later.serverBindings = store.serverBindings)
    (asks : machine.Asks server) (bound : store.serverBindings.get? server = some binding)
    (held : binding.isHeldBy machine.key = true) (version : Option String) :
    later.HoldsBy ((machine.holding server).withVersion version) server binding where
  named := machine.namedServer?_holding asks
  bound := by rw [same_bindings, bound]
  held := by
    rw [← held]
    exact congrArg binding.isHeldBy machine.key_prepared

/-- A machine that is written back with a report is a reported one. -/
theorem reportedAt_reported (same_bindings : later.serverBindings = store.serverBindings)
    (asks : machine.Asks server) (bound : store.serverBindings.get? server = some binding)
    (held : binding.isHeldBy machine.key = true) (ready : binding.isReady = true)
    (version : Option String) : ReportedAt later (nodes.stamped server)
      (((machine.holding server).updateStatus
        (·.report binding ((nodes.report server).since now))).withVersion version)
      server binding now := by
  have holds := holdsBy_holding same_bindings asks bound held version
  refine ⟨⟨holds.named, holds.bound, holds.held⟩, ready, ?_, ?_⟩
  · apply MetalMachine.holding_eq_self
    · exact MetalMachine.prepared_eq_self machine.hasFinalizer_prepared
        (MetalMachine.isInvalid_report machine.isInvalid_prepared _)
    · simp [MetalMachine.withVersion, MetalMachine.holding, MetalMachine.updateStatus]
    · rfl
  · rw [Nodes.report_stamped]
    exact ⟨_, rfl⟩

/-- Work on a machine leaves nothing to do, a claim, or a report. -/
theorem Works.leaves {before : Store} (works : Works before nodes now machine copy store nodes')
    (named : machine.metadata.name.isSome = true) (version : Option String)
    (frame : later =
      { store with version := later.version, metalMachines := later.metalMachines }) :
    Leaves later nodes' (copy.withVersion version) now := by
  have same_bindings := serverBindings_frame frame
  have key_eq := machine.key_withVersion_prepared version
  have named_eq := machine.namedServer?_withVersion_prepared version
  have same_spec : (machine.prepared.withVersion version).spec = machine.spec :=
    machine.spec_prepared
  have settled := machine.withVersion_prepared version
  cases works with
  | invalid nameless classless =>
      have same_spec : (machine.addFinalizer.reportInvalid.withVersion version).spec =
          machine.spec := machine.spec_addFinalizer
      have guarded : (machine.addFinalizer.reportInvalid.withVersion version).hasFinalizer = true :=
        machine.hasFinalizer_addFinalizer
      apply Leaves.rests
      apply atRest_of_invalid
      · rw [same_spec, nameless]
      · rw [same_spec, classless]
      · rw [MetalMachine.addFinalizer, if_pos guarded]
        rfl
  | refused names refuses =>
      apply Leaves.rests
      apply atRest_of_refused
      · rw [named_eq, names]
      · rw [mayHold_frame frame, key_eq, refuses]
      · exact settled
  | claims names free =>
      exact .claimed (holdsBy_claimed same_bindings named (named_eq.trans names) key_eq) rfl
  | @unserved serverClass nameless classed nothing unoffered =>
      rw [← same_spec] at nameless classed
      apply Leaves.rests
      refine atRest_of_unserved nameless classed ?_ ?_ settled
      · rw [key_eq]
        intro name binding bound
        exact nothing name binding (same_bindings ▸ bound)
      · intro server
        rw [offer_frame frame]
        exact unoffered server
  | @allocates serverClass server nameless classed =>
      have asks : machine.Asks server := .inr ⟨nameless, by rw [classed]; rfl⟩
      apply Leaves.rests
      apply atRest_of_unready
      · exact holdsBy_claimed same_bindings named (machine.namedServer?_holding asks)
          machine.key_prepared
      · rfl
      · exact machine.withVersion_holding server version
  | @waits server binding asks bound held unready =>
      apply Leaves.rests
      apply atRest_of_unready
      · exact holdsBy_holding same_bindings asks bound held version
      · exact unready
      · exact machine.withVersion_holding server version
  | @reports server binding asks bound held ready =>
      exact .reported (reportedAt_reported same_bindings asks bound held ready version)

theorem Works.surroundings (works : Works store nodes now machine copy later nodes') :
    later.machines = store.machines ∧ later.clusters = store.clusters := by
  cases works <;> exact ⟨rfl, rfl⟩

theorem Works.namesBindings (works : Works store nodes now machine copy later nodes')
    (bindings : store.NamesBindings) : later.NamesBindings := by
  have created : ∀ server reference,
      (store.withCreated (claim machine server reference)).NamesBindings := by
    intro server reference name binding found
    rcases Dict.get?_insert_eq_some.1 found with ⟨rfl, rfl⟩ | ⟨_, found⟩
    · rfl
    · exact bindings name binding found
  cases works with
  | invalid | refused | unserved | waits | reports => exact bindings
  | claims | allocates => exact created _ _

theorem MetalMachine.metadata_withVersion (metadata : copy.metadata = machine.addFinalizer.metadata)
    (version : Option String) : (copy.withVersion version).metadata =
      { machine.metadata with
        finalizers := machine.addFinalizer.metadata.finalizers
        resourceVersion := version } := by
  rw [metadata_addFinalizer] at metadata
  rw [withVersion, metadata]

/-- The machine that was written back is there for the next pass to work on. -/
theorem Store.Employs.next {middle : Store} (employs : store.Employs machine)
    (works : Works store nodes now machine copy middle nodes')
    (commits : Commits machine copy middle later) :
    ∃ version, later.Employs (copy.withVersion version) := by
  obtain ⟨version, own⟩ := commits.own
  have metadata := MetalMachine.metadata_withVersion works.metadata version
  have key_eq : (copy.withVersion version).key = machine.key := by
    rw [MetalMachine.key, metadata]
    rfl
  refine ⟨version, ?found, ?stays, ?admitted, ?named, ?bindings⟩
  case found =>
    rw [key_eq]
    exact own
  case stays =>
    rw [MetalMachine.isDeleting, metadata]
    exact employs.stays
  case admitted =>
    have owned : (copy.withVersion version).ownerKey? = machine.ownerKey? := by
      rw [MetalMachine.ownerKey?, metadata]
      rfl
    rw [Admits, owned, key_eq, commits.frame, works.surroundings.1, works.surroundings.2]
    exact employs.admitted
  case named =>
    rw [metadata]
    exact employs.named
  case bindings =>
    intro name binding found
    rw [serverBindings_frame commits.frame] at found
    exact works.namesBindings employs.bindings name binding found

/-! ## The third pass -/

/-- The condition of a machine of a key on its provider ID goes back and forth: the binding of its
server, which is ready, reports on the provider ID as well, and the other way. -/
def Surroundings.Wavers (world : Surroundings) (key : ObjectKey) : Prop :=
  ∃ machine server binding, world.store.metalMachines.get? key = some machine ∧
    machine.isDeleting = false ∧ world.store.Admits machine ∧
      world.store.HoldsBy machine server binding ∧ binding.isReady = true ∧
        Condition.Contradicts binding.conditions (world.nodes.report server)

/-- The instant that the clock shows next. -/
def Surroundings.time (world : Surroundings) : Timestamp :=
  world.clock.shows world.clock.readings

/-- Some surroundings are those that a pass over a machine left, but for the clock and for what the
allocator remembers. -/
structure Surroundings.Follows (next world : Surroundings) (key : ObjectKey) : Prop where
  store : next.store = ((machinePass key).run world).2.store
  nodes : next.nodes = ((machinePass key).run world).2.nodes

theorem Surroundings.follows_afterPasses (world : Surroundings) (key : ObjectKey) (count : Nat) :
    (world.afterPasses key (count + 1)).Follows (world.afterPasses key count) key where
  store := rfl
  nodes := rfl

/-- What a pass that worked on a machine does: there is a way to work, and the copy is committed for
the next pass. -/
theorem Store.Employs.pass {world : Surroundings} (employs : world.store.Employs machine) :
    ∃ copy middle version,
      Works world.store world.nodes world.time machine copy middle
        ((machinePass machine.key).run world).2.nodes ∧
      Commits machine copy middle ((machinePass machine.key).run world).2.store ∧
      ((machinePass machine.key).run world).2.store.Employs (copy.withVersion version) ∧
      (copy.withVersion version).key = machine.key := by
  obtain ⟨copy, middle, works, commits⟩ :=
    machinePass_admitted employs.found employs.stays employs.bindings employs.admitted
  obtain ⟨version, next⟩ := employs.next works commits
  have key_eq : copy.key = machine.key := key_eq_of_metadata works.metadata
  exact ⟨copy, middle, version, works, commits, next, key_eq⟩

section

variable {world next : Surroundings} (employs : world.store.Employs machine)
  (follows : next.Follows world machine.key)

include employs

/-- A pass over a machine changes nothing if there is nothing left to do. -/
theorem machinePass_of_atRest (rest : AtRest world.store world.nodes machine) :
    ((machinePass machine.key).run world).2.store = world.store ∧
      ((machinePass machine.key).run world).2.nodes = world.nodes := by
  obtain ⟨copy, middle, _, works, commits, _⟩ := employs.pass
  obtain ⟨same, rfl, same_nodes⟩ := rest.still _ _ _ _ works
  exact ⟨commits.eq_iff.2 same, same_nodes⟩

include follows

theorem leaves_of_first : ∃ last, next.store.Employs last ∧ last.key = machine.key ∧
    Leaves next.store next.nodes last world.time := by
  obtain ⟨copy, middle, version, works, commits, employs_next, key_eq⟩ := employs.pass
  have leaves := works.leaves employs.named version commits.frame
  rw [← follows.store] at employs_next leaves
  rw [← follows.nodes] at leaves
  exact ⟨_, employs_next, key_eq, leaves⟩

/-- After the next pass nothing is left to do, or a report was made at the time of that pass. -/
theorem leaves_of_second {earlier : Timestamp}
    (leaves : Leaves world.store world.nodes machine earlier) :
    ∃ last, next.store.Employs last ∧ last.key = machine.key ∧
      (AtRest next.store next.nodes last ∨
        ∃ server binding, ReportedAt next.store next.nodes last server binding world.time) := by
  cases leaves with
  | rests rest =>
      obtain ⟨same_store, same_nodes⟩ := machinePass_of_atRest employs rest
      rw [← follows.store] at same_store
      rw [← follows.nodes] at same_nodes
      exact ⟨machine, same_store.symm ▸ employs, rfl, .inl (same_nodes.symm ▸ same_store ▸ rest)⟩
  | @claimed server binding holds unready =>
      obtain ⟨copy, middle, version, works, commits, employs_next, key_eq⟩ := employs.pass
      rw [← follows.store] at commits employs_next
      obtain ⟨rfl, ⟨_, rfl, _⟩ | ⟨ready, _⟩⟩ := works_of_holdsBy holds works
      · have holds_next := holdsBy_holding (serverBindings_frame commits.frame) (.inl holds.named)
          holds.bound holds.held version
        exact ⟨_, employs_next, key_eq,
          .inl (atRest_of_unready holds_next unready (machine.withVersion_holding server version))⟩
      · rw [unready] at ready
        contradiction
  | @reported server binding report =>
      obtain ⟨copy, middle, version, works, commits, employs_next, key_eq⟩ := employs.pass
      rw [← follows.store] at commits employs_next
      rw [← follows.nodes] at works
      obtain ⟨rfl, ⟨unready, _⟩ | ⟨_, rfl, same_nodes⟩⟩ := works_of_holdsBy report.toHoldsBy works
      · rw [report.ready] at unready
        contradiction
      · rw [same_nodes]
        exact ⟨_, employs_next, key_eq, .inr ⟨server, binding, reportedAt_reported
          (serverBindings_frame commits.frame) (.inl report.named) report.bound report.held
            report.ready version⟩⟩

end

/-- A pass after a report changes something exactly if the machine's condition wavers and the time
is another one. -/
theorem machinePass_writes_iff {world : Surroundings} {earlier : Timestamp}
    (employs : world.store.Employs machine)
    (leaves : AtRest world.store world.nodes machine ∨
      ∃ server binding, ReportedAt world.store world.nodes machine server binding earlier) :
    ((machinePass machine.key).run world).2.store ≠ world.store ↔
      world.Wavers machine.key ∧ earlier ≠ world.time := by
  have own : ∀ other, world.store.metalMachines.get? machine.key = some other →
      other = machine := fun other found => Option.some.inj (found.symm.trans employs.found)
  rcases leaves with rest | ⟨server, binding, report⟩
  · have quiet := (machinePass_of_atRest employs rest).1
    have steady : ¬world.Wavers machine.key := by
      rintro ⟨other, server, binding, found, _, _, holds, ready, _⟩
      rw [own other found] at holds
      rw [rest.unready server binding holds] at ready
      contradiction
    simp [quiet, steady]
  · have wavers_iff : world.Wavers machine.key ↔
        Condition.Contradicts binding.conditions (world.nodes.report server) := by
      constructor
      · rintro ⟨other, server, present, found, _, _, holds, _, contradicts⟩
        rw [own other found] at holds
        obtain ⟨rfl, rfl⟩ := report.toHoldsBy.server_unique holds
        exact contradicts
      · intro contradicts
        exact ⟨machine, server, binding, employs.found, employs.stays, employs.admitted,
          report.toHoldsBy, report.ready, contradicts⟩
    obtain ⟨copy, middle, _, works, commits, _⟩ := employs.pass
    obtain ⟨rfl, ⟨unready, _⟩ | ⟨_, rfl, _⟩⟩ := works_of_holdsBy report.toHoldsBy works
    · rw [report.ready] at unready
      contradiction
    · rw [Ne, commits.eq_iff, report.settled, report.report_eq_iff, wavers_iff, not_or, not_not,
        and_comm]

/-- After two passes over a machine that is not marked for deletion, with nothing else happening in
between but that time goes by, a third writes something exactly if the machine's condition on its
provider ID wavers and the clock shows another time than at the second. -/
theorem third_pass_writes_iff {first second third : Surroundings} (arises : first.store.Arises)
    (bindings : first.store.NamesBindings)
    (found : first.store.metalMachines.get? key = some machine)
    (stays : machine.isDeleting = false) (named : machine.metadata.name.isSome = true)
    (second_follows : second.Follows first key) (third_follows : third.Follows second key) :
    ((machinePass key).run third).2.store ≠ third.store ↔
      third.Wavers key ∧ second.time ≠ third.time := by
  obtain rfl : machine.key = key := arises.wellKept.machine_key key machine found
  by_cases admitted : first.store.Admits machine
  · have employs : first.store.Employs machine := ⟨found, stays, admitted, named, bindings⟩
    obtain ⟨after, employs_second, key_eq, leaves⟩ := leaves_of_first employs second_follows
    rw [← key_eq] at third_follows ⊢
    obtain ⟨last, employs_third, key_eq, leaves⟩ :=
      leaves_of_second employs_second third_follows leaves
    rw [← key_eq]
    exact machinePass_writes_iff employs_third leaves
  · have same_second : second.store = first.store :=
      second_follows.store.trans (machinePass_shut found stays admitted).1
    rw [← same_second] at found admitted
    have same_third : third.store = second.store :=
      third_follows.store.trans (machinePass_shut found stays admitted).1
    rw [← same_third] at found admitted
    have quiet := (machinePass_shut found stays admitted).1
    have steady : ¬third.Wavers machine.key := by
      rintro ⟨other, _, _, found_other, _, admitted_other, _⟩
      rw [Option.some.inj (found_other.symm.trans found)] at admitted_other
      contradiction
    simp [quiet, steady]

/-- A machine that names its server. -/
def wavering : MetalMachine :=
  Laboratory.machine "a" { serverRef := some (.ofName "s") }

/-- A store with a binding that is ready and denies that the provider ID is set. -/
def disputed : Store :=
  ((Laboratory.store ["s"]).addMetalMachine wavering).addServerBinding
    { claim wavering "s" none with
      status := some {
        ready := true
        conditions := [{ type := Condition.providerSetType, status := .fails }] } }

/-- Surroundings with a node for the server and a clock that goes on by a second after two
readings. -/
def ticking : Surroundings :=
  { Laboratory.surroundings disputed {} with
    nodes := Nodes.add Dict.empty "s"
    clock := { shows := fun reading =>
      if reading < 2 then Fleet.epoch
      else { Fleet.epoch with second := 1, isTimeOfDay := by decide } } }

theorem disputed_arises : disputed.Arises :=
  ((Laboratory.store_arises ["s"]).addMetalMachine _).addServerBinding _

theorem disputed_namesBindings : disputed.NamesBindings :=
  Store.namesBindings_of_all (by decide +kernel)

theorem disputed_found : ∃ machine,
    disputed.metalMachines.get? (Laboratory.key "a") = some machine ∧
      machine.isDeleting = false ∧ machine.metadata.name.isSome = true := by
  have fits : (disputed.metalMachines.get? (Laboratory.key "a")).any (fun machine =>
      !machine.isDeleting && machine.metadata.name.isSome) = true := by decide +kernel
  obtain ⟨machine, found, fits⟩ := (Option.any_eq_true _ _).1 fits
  simp only [Bool.and_eq_true, Bool.not_eq_true'] at fits
  exact ⟨machine, found, fits⟩

/-- The surroundings after two passes over the machine. -/
def ticked : Surroundings := ticking.afterPasses (Laboratory.key "a") 2

/-- The third pass over the machine writes it under another version. -/
theorem ticked_writes :
    ((machinePass (Laboratory.key "a")).run ticked).2.store ≠ ticked.store := by
  intro same
  have versions : ((((machinePass (Laboratory.key "a")).run ticked).2.store.metalMachines.get?
      (Laboratory.key "a")).map (·.metadata.resourceVersion)) ≠
      ((ticked.store.metalMachines.get? (Laboratory.key "a")).map
        (·.metadata.resourceVersion)) := by
    decide +kernel
  rw [same] at versions
  exact versions rfl

/-- Two passes over a machine whose binding denies that the provider ID is set do not bring it to
rest. -/
theorem disputed_never_rests : ticking.store.Arises ∧ ticking.store.NamesBindings ∧
    (∃ machine, ticking.store.metalMachines.get? (Laboratory.key "a") = some machine ∧
      machine.isDeleting = false ∧ machine.metadata.name.isSome = true) ∧
    ((machinePass (Laboratory.key "a")).run ticked).2.store ≠ ticked.store :=
  ⟨disputed_arises, disputed_namesBindings, disputed_found, ticked_writes⟩

/-- The third pass writes because the machine's condition wavers. -/
theorem third_pass_writes_iff_ticked : ticking.store.Arises ∧ ticking.store.NamesBindings ∧
    (∃ machine, ticking.store.metalMachines.get? (Laboratory.key "a") = some machine ∧
      machine.isDeleting = false ∧ machine.metadata.name.isSome = true) ∧
    ticked.Wavers (Laboratory.key "a") ∧
    (ticking.afterPasses (Laboratory.key "a") 1).time ≠ ticked.time := by
  have arises : ticking.store.Arises := disputed_arises
  have bindings : ticking.store.NamesBindings := disputed_namesBindings
  obtain ⟨machine, found, stays, named⟩ := disputed_found
  refine ⟨arises, bindings, ⟨machine, found, stays, named⟩, ?_⟩
  have second : (ticking.afterPasses (Laboratory.key "a") 1).Follows ticking (Laboratory.key "a") :=
    ticking.follows_afterPasses _ 0
  have third : ticked.Follows (ticking.afterPasses (Laboratory.key "a") 1) (Laboratory.key "a") :=
    ticking.follows_afterPasses _ 1
  have writes_iff := third_pass_writes_iff arises bindings found stays named second third
  exact writes_iff.1 ticked_writes

end BareMetal
