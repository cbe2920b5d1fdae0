import BareMetal.Claim
import BareMetal.Proofs.Pass.Holding
import BareMetal.Proofs.Store.WellKept

/-!
# How claims evolve while nothing is deleted

As long as no machine is marked for deletion, bindings stay with their name and their holder,
machines go on naming the server that they name, and a machine found with an old version is the
machine of old.  Each write of a pass lets the store evolve in this way, and a machine is given a
server only if it holds that server.
-/

namespace BareMetal

/-- A machine was found ready for use. -/
def MetalMachine.isReady (machine : MetalMachine) : Bool := machine.currentStatus.ready

theorem ServerBinding.isHeldBy_iff {binding : ServerBinding} {machine : ObjectKey} :
    binding.isHeldBy machine = true ↔ binding.holder = machine := by
  simp [isHeldBy, Reference.pointsTo, holder]

/-- The key that claims of a machine point at. -/
def MetalMachine.claimant (machine : MetalMachine) : ObjectKey := (Reference.toObject machine).key

/-- Claims of a machine with a name point at the machine. -/
theorem MetalMachine.claimant_eq_key {machine : MetalMachine}
    (named : machine.metadata.name.isSome = true) : machine.claimant = machine.key := by
  obtain ⟨name, found⟩ := Option.isSome_iff_exists.1 named
  simp [claimant, Reference.key, Reference.toObject, Resource.anyName, Resource.metadata,
    Metadata.anyName, key, Metadata.key, found]

/-- The claim of a machine with a name points at the machine. -/
theorem holder_claim {machine : MetalMachine} (named : machine.metadata.name.isSome = true)
    (server : String) (serverClass : Option Reference) :
    (claim machine server serverClass).holder = machine.key :=
  machine.claimant_eq_key named

namespace Store

/-- The reference by which the machine of a key names its server. -/
def reference? (store : Store) (key : ObjectKey) : Option Reference :=
  (store.metalMachines.get? key).bind fun machine => machine.spec.serverRef

theorem reference?_of_get? {store : Store} {key : ObjectKey} {machine : MetalMachine}
    (found : store.metalMachines.get? key = some machine) :
    store.reference? key = machine.spec.serverRef := by
  rw [reference?, found, Option.bind_some]

theorem reference?_congr {before after : Store} {key : ObjectKey}
    (same : after.metalMachines.get? key = before.metalMachines.get? key) :
    after.reference? key = before.reference? key := by
  rw [reference?, reference?, same]

theorem reference?_withMachine_self (store : Store) {key : ObjectKey} (machine : MetalMachine) :
    (store.withMachine key machine).reference? key = machine.spec.serverRef :=
  reference?_of_get? (Dict.get?_insert_self _ _ _)

/-- A binding of the name of a server shows that a machine holds the server. -/
def Holds (store : Store) (machine : ObjectKey) (server : String) : Prop :=
  ∃ binding, store.serverBindings.get? server = some binding ∧ binding.isHeldBy machine = true

instance (store : Store) (machine : ObjectKey) (server : String) :
    Decidable (store.Holds machine server) :=
  decidable_of_iff _ (Option.any_eq_true (fun binding => binding.isHeldBy machine)
    (store.serverBindings.get? server))

theorem holds_congr {before after : Store} {machine : ObjectKey} {server : String}
    (same : after.serverBindings = before.serverBindings) :
    after.Holds machine server ↔ before.Holds machine server := by
  rw [Holds, Holds, same]

/-- No server is held by two machines. -/
theorem Holds.unique {store : Store} {machine other : ObjectKey} {server : String}
    (holds : store.Holds machine server) (holds_too : store.Holds other server) :
    machine = other := by
  obtain ⟨binding, found, held⟩ := holds
  obtain ⟨binding_too, found_too, held_too⟩ := holds_too
  obtain rfl : binding = binding_too := Option.some.inj (found.symm.trans found_too)
  exact (ServerBinding.isHeldBy_iff.1 held).symm.trans (ServerBinding.isHeldBy_iff.1 held_too)

theorem holdsNothing_iff {store : Store} {machine : ObjectKey} :
    store.HoldsNothing machine ↔ ∀ server, ¬store.Holds machine server := by
  constructor
  · rintro free server ⟨binding, found, held⟩
    exact nomatch (free server binding found).symm.trans held
  · exact fun free server binding found =>
      Bool.eq_false_iff.2 fun held => free server ⟨binding, found, held⟩

/-- A machine that stays, and that holds the server that it names. -/
structure Keeps (store : Store) (machine : MetalMachine) : Prop where
  /-- It has a name. -/
  named : machine.metadata.name.isSome = true
  /-- It is not marked for deletion. -/
  stays : machine.isDeleting = false
  /-- It holds the server that it names. -/
  backed : ∀ server, machine.namedServer? = some server → store.Holds machine.key server

/-- A machine that names no server has none to lose. -/
theorem Keeps.of_serverless {store : Store} {machine : MetalMachine}
    (named : machine.metadata.name.isSome = true) (stays : machine.isDeleting = false)
    (serverless : machine.spec.serverRef = none) : store.Keeps machine where
  named := named
  stays := stays
  backed := by simp [MetalMachine.namedServer?, serverless]

/-- What stays of a store while nothing is deleted. -/
structure Evolves (before after : Store) : Prop where
  /-- Versions ascend. -/
  version : before.version ≤ after.version
  /-- Bindings stay, each with its name and its content. -/
  bindings : ∀ name binding, before.serverBindings.get? name = some binding →
    ∃ later, after.serverBindings.get? name = some later ∧
      later.metadata.name = binding.metadata.name ∧ later.spec = binding.spec
  /-- Machines stay, and name the server that they named. -/
  machines : ∀ key machine, before.metalMachines.get? key = some machine →
    ∃ later, after.metalMachines.get? key = some later ∧
      ∀ reference, machine.spec.serverRef = some reference →
        later.spec.serverRef = some reference
  /-- A machine with an old version is the machine of old. -/
  fresh : ∀ key machine, after.metalMachines.get? key = some machine →
    before.Issued machine.metadata.resourceVersion → before.metalMachines.get? key = some machine

theorem Evolves.refl (store : Store) : store.Evolves store where
  version := Nat.le_refl _
  bindings _ binding found := ⟨binding, found, rfl, rfl⟩
  machines _ machine found := ⟨machine, found, fun _ named => named⟩
  fresh _ _ found _ := found

theorem Evolves.trans {first second third : Store} (front : first.Evolves second)
    (back : second.Evolves third) : first.Evolves third where
  version := Nat.le_trans front.version back.version
  bindings name binding found := by
    obtain ⟨middle, found_middle, named_middle, spec_middle⟩ := front.bindings name binding found
    obtain ⟨later, found_later, named_later, spec_later⟩ := back.bindings name middle found_middle
    exact ⟨later, found_later, named_later.trans named_middle, spec_later.trans spec_middle⟩
  machines key machine found := by
    obtain ⟨middle, found_middle, names_middle⟩ := front.machines key machine found
    obtain ⟨later, found_later, names_later⟩ := back.machines key middle found_middle
    exact ⟨later, found_later, fun reference named =>
      names_later reference (names_middle reference named)⟩
  fresh key machine found issued := by
    have found_middle := back.fresh key machine found (issued.of_le front.version)
    exact front.fresh key machine found_middle issued

theorem Holds.of_evolves {before after : Store} {machine : ObjectKey} {server : String}
    (holds : before.Holds machine server) (evolves : before.Evolves after) :
    after.Holds machine server := by
  obtain ⟨binding, found, held⟩ := holds
  obtain ⟨later, found_later, _, same⟩ := evolves.bindings server binding found
  refine ⟨later, found_later, ?_⟩
  rwa [ServerBinding.isHeldBy, same]

/-- The store evolves, and a machine that names a server did so before or holds it. -/
structure Allots (before after : Store) : Prop extends before.Evolves after where
  /-- A reference is new only with a binding behind it. -/
  backed : ∀ key machine reference, after.metalMachines.get? key = some machine →
    machine.spec.serverRef = some reference →
      (∃ old, before.metalMachines.get? key = some old ∧ old.spec.serverRef = some reference) ∨
        after.Holds key reference.name

/-- A store in which nothing is deleted and everything ready holds its server. -/
structure Standing (store : Store) : Prop extends store.WellKept where
  /-- Bindings have names. -/
  binding_named : ∀ name binding, store.serverBindings.get? name = some binding →
    binding.metadata.name.isSome = true
  /-- Machines have names. -/
  machine_named : ∀ key machine, store.metalMachines.get? key = some machine →
    machine.metadata.name.isSome = true
  /-- No machine is marked for deletion. -/
  stays : ∀ key machine, store.metalMachines.get? key = some machine → machine.isDeleting = false
  /-- A ready machine holds the server that it names. -/
  ready : ∀ key machine, store.metalMachines.get? key = some machine → machine.isReady = true →
    ∃ reference, machine.spec.serverRef = some reference ∧ store.Holds key reference.name

/-! ## Writes of bindings -/

section

variable {store after : Store}

/-- A write of bindings alone, none of which is lost. -/
theorem allots_of_bindings (metalMachines : after.metalMachines = store.metalMachines)
    (version : store.version ≤ after.version)
    (bindings : ∀ name binding, store.serverBindings.get? name = some binding →
      ∃ later, after.serverBindings.get? name = some later ∧
        later.metadata.name = binding.metadata.name ∧ later.spec = binding.spec) :
    store.Allots after where
  version := version
  bindings := bindings
  machines _ machine found := ⟨machine, metalMachines ▸ found, fun _ named => named⟩
  fresh _ _ found _ := metalMachines ▸ found
  backed _ machine _ found named := .inl ⟨machine, metalMachines ▸ found, named⟩

theorem Standing.of_bindings (standing : store.Standing) (kept : after.WellKept)
    (evolves : store.Evolves after) (metalMachines : after.metalMachines = store.metalMachines)
    (named : ∀ name binding, after.serverBindings.get? name = some binding →
      binding.metadata.name.isSome = true) : after.Standing where
  toWellKept := kept
  binding_named := named
  machine_named key machine found := standing.machine_named key machine (metalMachines ▸ found)
  stays key machine found := standing.stays key machine (metalMachines ▸ found)
  ready key machine found ready := by
    obtain ⟨reference, names, holds⟩ := standing.ready key machine (metalMachines ▸ found) ready
    exact ⟨reference, names, holds.of_evolves evolves⟩

/-- A claim of a free server. -/
theorem Standing.withCreated (standing : store.Standing) {machine : MetalMachine} {server : String}
    {serverClass : Option Reference} (free : store.serverBindings.get? server = none) :
    (store.withCreated (claim machine server serverClass)).Standing ∧
      store.Allots (store.withCreated (claim machine server serverClass)) := by
  have allots : store.Allots (store.withCreated (claim machine server serverClass)) := by
    refine allots_of_bindings rfl (Nat.le_succ _) fun name binding found => ?_
    have other : name ≠ server := fun same => by
      rw [same, free] at found
      exact nomatch found
    exact ⟨binding, (Dict.get?_insert_of_ne other _ _).trans found, rfl, rfl⟩
  refine ⟨standing.of_bindings (standing.toWellKept.withCreated _) allots.toEvolves rfl ?_, allots⟩
  intro name binding found
  rcases Dict.get?_insert_eq_some.1 found with ⟨_, rfl⟩ | ⟨_, found⟩
  · rfl
  · exact standing.binding_named name binding found

/-- A machine with a name holds what it claimed. -/
theorem holds_withCreated {machine : MetalMachine} (named : machine.metadata.name.isSome = true)
    (server : String) (serverClass : Option Reference) :
    (store.withCreated (claim machine server serverClass)).Holds machine.key server :=
  ⟨_, Dict.get?_insert_self _ _ _,
    ServerBinding.isHeldBy_iff.2 (holder_claim named server serverClass)⟩

/-- A claim of a free server gives it to whom it points at and leaves all others where they are. -/
theorem holds_withCreated_iff {machine : MetalMachine} {server : String}
    (free : store.serverBindings.get? server = none) (serverClass : Option Reference)
    (key : ObjectKey) (name : String) :
    (store.withCreated (claim machine server serverClass)).Holds key name ↔
      store.Holds key name ∨ key = machine.claimant ∧ name = server := by
  constructor
  · rintro ⟨binding, found, held⟩
    rcases Dict.get?_insert_eq_some.1 found with ⟨rfl, rfl⟩ | ⟨_, found⟩
    · exact .inr ⟨(ServerBinding.isHeldBy_iff.1 held).symm, rfl⟩
    · exact .inl ⟨binding, found, held⟩
  · rintro (⟨binding, found, held⟩ | ⟨rfl, rfl⟩)
    · have other : name ≠ server := by
        rintro rfl
        exact nomatch free.symm.trans found
      exact ⟨binding, (Dict.get?_insert_of_ne other _ _).trans found, held⟩
    · exact ⟨_, Dict.get?_insert_self _ _ _, ServerBinding.isHeldBy_iff.2 rfl⟩

/-- The deletion of a binding takes the server of its name, and no other. -/
theorem holds_deleteServerBinding_iff {name : String} {key : ObjectKey} {server : String} :
    (store.perform (.deleteServerBinding name)).2.Holds key server ↔
      store.Holds key server ∧ server ≠ name := by
  constructor
  · rintro ⟨binding, found, held⟩
    obtain ⟨differs, found⟩ := Dict.get?_erase_eq_some.1 found
    exact ⟨⟨binding, found, held⟩, differs⟩
  · rintro ⟨⟨binding, found, held⟩, differs⟩
    exact ⟨binding, Dict.get?_erase_eq_some.2 ⟨differs, found⟩, held⟩

/-- A change of the status of a binding leaves all servers where they are. -/
theorem holds_withBinding_iff {name : String} {binding : ServerBinding}
    (found : store.serverBindings.get? name = some binding) (status : ServerBindingStatus)
    (key : ObjectKey) (server : String) :
    (store.withBinding name (store.bindingWithStatus binding status)).Holds key server ↔
      store.Holds key server := by
  by_cases same : server = name
  · subst same
    have found_after : (store.withBinding server
        (store.bindingWithStatus binding status)).serverBindings.get? server =
          some (store.bindingWithStatus binding status) := Dict.get?_insert_self _ _ _
    rw [Holds, Holds, found_after, found]
    simp [bindingWithStatus, ServerBinding.isHeldBy]
  · have same_look : (store.withBinding name
        (store.bindingWithStatus binding status)).serverBindings.get? server =
          store.serverBindings.get? server := Dict.get?_insert_of_ne same _ _
    rw [Holds, Holds, same_look]

/-- A change of the status of a binding. -/
theorem Standing.withBinding (standing : store.Standing) {name : String} {binding : ServerBinding}
    (found : store.serverBindings.get? name = some binding) (status : ServerBindingStatus) :
    (store.withBinding name (store.bindingWithStatus binding status)).Standing ∧
      store.Allots (store.withBinding name (store.bindingWithStatus binding status)) := by
  have allots : store.Allots
      (store.withBinding name (store.bindingWithStatus binding status)) := by
    refine allots_of_bindings rfl (Nat.le_succ _) fun other present found_present => ?_
    by_cases same : other = name
    · subst same
      obtain rfl : binding = present := Option.some.inj (found.symm.trans found_present)
      exact ⟨_, Dict.get?_insert_self _ _ _, rfl, rfl⟩
    · exact ⟨present, (Dict.get?_insert_of_ne same _ _).trans found_present, rfl, rfl⟩
  have change : store.BindingStatusChange name status (.ok ()) _ := .changed found
  have kept := standing.toWellKept.of_bindingStatusChange change
  refine ⟨standing.of_bindings kept allots.toEvolves rfl ?_, allots⟩
  intro other present found_present
  rcases Dict.get?_insert_eq_some.1 found_present with ⟨_, rfl⟩ | ⟨_, found_present⟩
  · exact standing.binding_named name binding found
  · exact standing.binding_named other present found_present

/-! ## Writes of machines -/

/-- A write of a machine that is there and goes on naming its server. -/
theorem Standing.withMachine (standing : store.Standing) {key : ObjectKey}
    {stored machine : MetalMachine} (found : store.metalMachines.get? key = some stored)
    (keyed : machine.key = key)
    (stamped : machine.metadata.resourceVersion = some store.nextVersion)
    (named : machine.metadata.name.isSome = true) (stays : machine.isDeleting = false)
    (names : ∀ reference, stored.spec.serverRef = some reference →
      machine.spec.serverRef = some reference)
    (backed : ∀ reference, machine.spec.serverRef = some reference →
      stored.spec.serverRef = some reference ∨ store.Holds key reference.name)
    (ready : machine.isReady = true → ∃ reference, machine.spec.serverRef = some reference ∧
      store.Holds key reference.name) :
    (store.withMachine key machine).Standing ∧ store.Allots (store.withMachine key machine) := by
  refine ⟨⟨standing.toWellKept.withMachine machine keyed stamped, standing.binding_named, ?_, ?_,
    ?_⟩, ⟨⟨Nat.le_succ _, fun _ binding found => ⟨binding, found, rfl, rfl⟩, ?_, ?_⟩, ?_⟩⟩
  · intro other present found_present
    rcases Dict.get?_insert_eq_some.1 found_present with ⟨_, rfl⟩ | ⟨_, found_present⟩
    · exact named
    · exact standing.machine_named other present found_present
  · intro other present found_present
    rcases Dict.get?_insert_eq_some.1 found_present with ⟨_, rfl⟩ | ⟨_, found_present⟩
    · exact stays
    · exact standing.stays other present found_present
  · intro other present found_present
    rcases Dict.get?_insert_eq_some.1 found_present with ⟨rfl, rfl⟩ | ⟨_, found_present⟩
    · exact ready
    · exact standing.ready other present found_present
  · intro other present found_present
    by_cases same : other = key
    · subst same
      obtain rfl : stored = present := Option.some.inj (found.symm.trans found_present)
      exact ⟨machine, Dict.get?_insert_self _ _ _, names⟩
    · exact ⟨present, (Dict.get?_insert_of_ne same _ _).trans found_present, fun _ same => same⟩
  · intro other present found_present issued
    rcases Dict.get?_insert_eq_some.1 found_present with ⟨_, rfl⟩ | ⟨_, found_present⟩
    · rw [stamped] at issued
      exact absurd issued store.not_issued_nextVersion
    · exact found_present
  · intro other present reference found_present names_present
    rcases Dict.get?_insert_eq_some.1 found_present with ⟨rfl, rfl⟩ | ⟨_, found_present⟩
    · rcases backed reference names_present with old | holds
      · exact .inl ⟨stored, found, old⟩
      · exact .inr holds
    · exact .inl ⟨present, found_present, names_present⟩

/-! ## Changes that touch no claim -/

theorem Standing.of_leavesClaims (standing : store.Standing) (leaves : LeavesClaims store after) :
    after.Standing ∧ store.Allots after := by
  have allots : store.Allots after :=
    allots_of_bindings leaves.metalMachines leaves.version fun name binding found =>
      ⟨binding, leaves.serverBindings ▸ found, rfl, rfl⟩
  exact ⟨standing.of_bindings (standing.toWellKept.of_leavesClaims leaves) allots.toEvolves
    leaves.metalMachines fun name binding found =>
      standing.binding_named name binding (leaves.serverBindings ▸ found), allots⟩

/-- A machine as the store keeps it once it is put in. -/
def addedMachine (store : Store) (machine : MetalMachine) : MetalMachine :=
  { machine with
    metadata.resourceVersion := some store.nextVersion
    metadata.uid := machine.metadata.uid.or (some (Text.uuid store.nextUid)) }

theorem addMetalMachine_claims (store : Store) (machine : MetalMachine) :
    (store.addMetalMachine machine).metalMachines =
        store.metalMachines.insert machine.key (store.addedMachine machine) ∧
      (store.addMetalMachine machine).serverBindings = store.serverBindings ∧
      (store.addMetalMachine machine).version = store.version + 1 := by
  unfold addMetalMachine addedMachine
  dsimp only
  split <;> rename_i uid <;> rw [uid] <;> exact ⟨rfl, rfl, rfl⟩

/-- What comes from outside while nothing is deleted: new machines of a kind, and changes that touch
neither bindings nor metal machines. -/
inductive Comes (Kind : MetalMachine → Prop) (before : Store) : Store → Prop
  /-- Servers and classes change in any way, and so do owner machines and clusters. -/
  | elsewhere {after : Store} (leaves : LeavesClaims before after) : Comes Kind before after
  /-- A machine is put in that is not marked for deletion, under a key that is not used. -/
  | machine (machine : MetalMachine) (kind : Kind machine)
      (named : machine.metadata.name.isSome = true) (stays : machine.isDeleting = false)
      (unused : before.metalMachines.get? machine.key = none) :
      Comes Kind before (before.addMetalMachine machine)

/-- A new machine under a key that is not used. -/
theorem Standing.addMetalMachine (standing : store.Standing) {machine : MetalMachine}
    (named : machine.metadata.name.isSome = true) (stays : machine.isDeleting = false)
    (unready : machine.isReady = false) (unused : store.metalMachines.get? machine.key = none) :
    (store.addMetalMachine machine).Standing ∧ store.Evolves (store.addMetalMachine machine) := by
  obtain ⟨metalMachines, serverBindings, version⟩ := store.addMetalMachine_claims machine
  refine ⟨⟨standing.toWellKept.addMetalMachine machine, ?_, ?_, ?_, ?_⟩, ⟨?_, ?_, ?_, ?_⟩⟩
  · exact fun name binding found => standing.binding_named name binding (serverBindings ▸ found)
  · intro key present found
    rw [metalMachines, Dict.get?_insert_eq_some] at found
    rcases found with ⟨_, rfl⟩ | ⟨_, found⟩
    · exact named
    · exact standing.machine_named key present found
  · intro key present found
    rw [metalMachines, Dict.get?_insert_eq_some] at found
    rcases found with ⟨_, rfl⟩ | ⟨_, found⟩
    · exact stays
    · exact standing.stays key present found
  · intro key present found ready
    rw [metalMachines, Dict.get?_insert_eq_some] at found
    rcases found with ⟨_, rfl⟩ | ⟨_, found⟩
    · have ready : machine.isReady = true := ready
      rw [unready] at ready
      exact nomatch ready
    · obtain ⟨reference, names, binding, found_binding, held⟩ :=
        standing.ready key present found ready
      exact ⟨reference, names, binding, serverBindings ▸ found_binding, held⟩
  · exact version ▸ Nat.le_succ _
  · exact fun name binding found => ⟨binding, serverBindings ▸ found, rfl, rfl⟩
  · intro key present found
    have other : key ≠ machine.key := fun same => by
      rw [same, unused] at found
      exact nomatch found
    rw [metalMachines]
    exact ⟨present, (Dict.get?_insert_of_ne other _ _).trans found, fun _ named => named⟩
  · intro key present found issued
    rw [metalMachines, Dict.get?_insert_eq_some] at found
    rcases found with ⟨_, rfl⟩ | ⟨_, found⟩
    · exact absurd issued store.not_issued_nextVersion
    · exact found

end

end Store

end BareMetal
