import BareMetal.Proofs.Claim.Evolution
import BareMetal.Proofs.Pass.Healing
import BareMetal.Proofs.Pass.Machine
import BareMetal.Proofs.Pass.Refreshing
import BareMetal.Proofs.Pass.Release

/-!
# Bindings and references in accord

If passes run one after the other, then after each of them every binding points at a machine that
names its server, and no pass leaves a machine that stays with a reference to a server that it does
not hold.
-/

namespace BareMetal

open Store

/-! ## Accord -/

namespace Store

/-- Every binding points at a machine that names its server. -/
structure Accord (store : Store) : Prop extends store.WellKept where
  /-- Bindings have names. -/
  binding_named : ∀ name binding, store.serverBindings.get? name = some binding →
    binding.metadata.name.isSome = true
  /-- Machines have names. -/
  machine_named : ∀ key machine, store.metalMachines.get? key = some machine →
    machine.metadata.name.isSome = true
  /-- The holder of a server names it. -/
  named : ∀ server binding, store.serverBindings.get? server = some binding →
    ∃ machine reference, store.metalMachines.get? binding.holder = some machine ∧
      machine.spec.serverRef = some reference ∧ reference.name = server

/-- A machine that stays names a server that it does not hold. -/
def Lacks (store : Store) (key : ObjectKey) (reference : Reference) : Prop :=
  (∃ machine, store.metalMachines.get? key = some machine ∧ machine.isDeleting = false ∧
    machine.spec.serverRef = some reference) ∧ ¬store.Holds key reference.name

/-- What a pass leaves is in accord, and no machine lacks its server that did not lack it before. -/
structure Settles (before after : Store) : Prop where
  /-- Bindings and references are in accord. -/
  accord : after.Accord
  /-- No machine came to lack its server. -/
  lacked : ∀ key reference, after.Lacks key reference → before.Lacks key reference

theorem Settles.refl {store : Store} (accord : store.Accord) : store.Settles store :=
  ⟨accord, fun _ _ lacks => lacks⟩

theorem Settles.trans {first second third : Store} (front : first.Settles second)
    (back : second.Settles third) : first.Settles third :=
  ⟨back.accord, fun key reference lacks =>
    front.lacked key reference (back.lacked key reference lacks)⟩

section

variable {store after : Store}

theorem Accord.anyName (accord : store.Accord) {name : String} {binding : ServerBinding}
    (found : store.serverBindings.get? name = some binding) : binding.anyName = name := by
  obtain ⟨own, named⟩ := Option.isSome_iff_exists.1 (accord.binding_named name binding found)
  have under := accord.binding_name name binding found
  simpa [ServerBinding.anyName, Metadata.anyName, named] using under

/-- No machine holds two servers. -/
theorem Accord.unique (accord : store.Accord) {server other : String}
    {binding binding_too : ServerBinding}
    (found : store.serverBindings.get? server = some binding)
    (found_too : store.serverBindings.get? other = some binding_too)
    (same_holder : binding.holder = binding_too.holder) : server = other := by
  obtain ⟨machine, reference, found_machine, names, same⟩ := accord.named server binding found
  obtain ⟨machine_too, reference_too, found_too, names_too, same_too⟩ :=
    accord.named other binding_too found_too
  rw [← same_holder] at found_too
  obtain rfl : machine = machine_too := Option.some.inj (found_machine.symm.trans found_too)
  obtain rfl : reference = reference_too := Option.some.inj (names.symm.trans names_too)
  exact same.symm.trans same_too

/-! ## Changes that keep the accord -/

/-- A change that loses no reference and no binding, where what is new is backed. -/
theorem Accord.settles_of_grows (accord : store.Accord) (kept : after.WellKept)
    (machine_named : ∀ key machine, after.metalMachines.get? key = some machine →
      machine.metadata.name.isSome = true)
    (names : ∀ key machine reference, store.metalMachines.get? key = some machine →
      machine.spec.serverRef = some reference →
        ∃ later, after.metalMachines.get? key = some later ∧ later.spec.serverRef = some reference)
    (backed : ∀ key later reference, after.metalMachines.get? key = some later →
      later.isDeleting = false → later.spec.serverRef = some reference →
        after.Holds key reference.name ∨
          ∃ machine, store.metalMachines.get? key = some machine ∧ machine.isDeleting = false ∧
            machine.spec.serverRef = some reference)
    (bindings : ∀ server binding, after.serverBindings.get? server = some binding →
      binding.metadata.name.isSome = true ∧
        ((∃ old, store.serverBindings.get? server = some old ∧ old.holder = binding.holder) ∨
          ∃ later, after.metalMachines.get? binding.holder = some later ∧
            later.namedServer? = some server))
    (holds : ∀ key server, store.Holds key server → after.Holds key server) :
    store.Settles after := by
  refine ⟨⟨kept, fun server binding found => (bindings server binding found).1, machine_named, ?_⟩,
    ?_⟩
  · intro server binding found
    obtain ⟨_, ⟨old, found_old, same_holder⟩ | ⟨later, found_later, names_server⟩⟩ :=
      bindings server binding found
    · obtain ⟨machine, reference, found_machine, named, same⟩ := accord.named server old found_old
      obtain ⟨later, found_later, named_later⟩ := names _ machine reference found_machine named
      exact ⟨later, reference, same_holder ▸ found_later, named_later, same⟩
    · obtain ⟨reference, named, same⟩ := Option.map_eq_some_iff.1 names_server
      exact ⟨later, reference, found_later, named, same⟩
  · rintro key reference ⟨⟨later, found, stays, named⟩, without⟩
    rcases backed key later reference found stays named with held | was
    · exact absurd held without
    · exact ⟨was, fun held => without (holds key reference.name held)⟩

theorem Accord.settles_of_leavesClaims (accord : store.Accord) (leaves : LeavesClaims store after) :
    store.Settles after := by
  refine accord.settles_of_grows (accord.toWellKept.of_leavesClaims leaves) ?_ ?_ ?_ ?_ ?_
  · exact fun key machine found => accord.machine_named key machine (leaves.metalMachines ▸ found)
  · exact fun key machine reference found named =>
      ⟨machine, leaves.metalMachines ▸ found, named⟩
  · exact fun key later reference found stays named =>
      .inr ⟨later, leaves.metalMachines ▸ found, stays, named⟩
  · intro server binding found
    rw [leaves.serverBindings] at found
    exact ⟨accord.binding_named server binding found, .inl ⟨binding, found, rfl⟩⟩
  · rintro key server ⟨binding, found, held⟩
    exact ⟨binding, leaves.serverBindings ▸ found, held⟩

theorem Accord.settles_withBinding (accord : store.Accord) {name : String}
    {binding : ServerBinding} (found : store.serverBindings.get? name = some binding)
    (status : ServerBindingStatus) :
    store.Settles (store.withBinding name (store.bindingWithStatus binding status)) := by
  have change : store.BindingStatusChange name status (.ok ()) _ := .changed found
  refine accord.settles_of_grows (accord.toWellKept.of_bindingStatusChange change)
    accord.machine_named (fun _ machine _ found named => ⟨machine, found, named⟩)
    (fun _ later _ found stays named => .inr ⟨later, found, stays, named⟩) ?_ ?_
  · intro server present found_present
    rcases Dict.get?_insert_eq_some.1 found_present with ⟨rfl, rfl⟩ | ⟨_, found_present⟩
    · exact ⟨accord.binding_named _ binding found, .inl ⟨binding, found, rfl⟩⟩
    · exact ⟨accord.binding_named server present found_present, .inl ⟨present, found_present, rfl⟩⟩
  · rintro key server ⟨present, found_present, held⟩
    by_cases same : server = name
    · subst same
      obtain rfl : binding = present := Option.some.inj (found.symm.trans found_present)
      exact ⟨_, Dict.get?_insert_self _ _ _, held⟩
    · exact ⟨present, (Dict.get?_insert_of_ne same _ _).trans found_present, held⟩

/-- A claim for a machine that names the server. -/
theorem Accord.settles_withCreated (accord : store.Accord) {machine : MetalMachine}
    (found : store.metalMachines.get? machine.key = some machine) {server : String}
    (names : machine.namedServer? = some server)
    (free : store.serverBindings.get? server = none) (serverClass : Option Reference) :
    store.Settles (store.withCreated (claim machine server serverClass)) := by
  refine accord.settles_of_grows (accord.toWellKept.withCreated _) accord.machine_named
    (fun _ machine _ found named => ⟨machine, found, named⟩)
    (fun _ later _ found stays named => .inr ⟨later, found, stays, named⟩) ?_ ?_
  · intro other binding found_binding
    rcases Dict.get?_insert_eq_some.1 found_binding with ⟨rfl, rfl⟩ | ⟨_, found_binding⟩
    · have holder := holder_claim (accord.machine_named _ machine found) other serverClass
      exact ⟨rfl, .inr ⟨machine, (congrArg store.metalMachines.get? holder).trans found, names⟩⟩
    · exact ⟨accord.binding_named other binding found_binding, .inl ⟨binding, found_binding, rfl⟩⟩
  · rintro key other ⟨binding, found_binding, held⟩
    have different : other ≠ server := by
      rintro rfl
      cases free.symm.trans found_binding
    exact ⟨binding, (Dict.get?_insert_of_ne different _ _).trans found_binding, held⟩

/-! ## Machines written back -/

/-- A machine was written back with a reference, and nothing else happened. -/
structure Rewritten (machine : MetalMachine) (serverRef : Option Reference)
    (before after : Store) : Prop where
  /-- The store is in order. -/
  kept : after.WellKept
  /-- No binding was touched. -/
  serverBindings : after.serverBindings = before.serverBindings
  /-- No other machine was touched. -/
  others : ∀ key, key ≠ machine.key →
    after.metalMachines.get? key = before.metalMachines.get? key
  /-- The machine is there with the reference. -/
  own : ∃ later, after.metalMachines.get? machine.key = some later ∧
    later.spec.serverRef = serverRef ∧ later.isDeleting = machine.isDeleting ∧
      later.metadata.name = machine.metadata.name

/-- A machine holds a server alone: it held it before, or a claim of its own is all that is new. -/
def HoldsAlone (machine : MetalMachine) (before : Store) (server : String) (later : Store) :
    Prop :=
  before = later ∧ before.Holds machine.key server ∨
    before.serverBindings.get? server = none ∧
      ∃ serverClass, later = before.withCreated (claim machine server serverClass)

/-- After an allocation alone nothing is new, or just a claim of a server that is named now. -/
theorem new_of_prepared {machine copy : MetalMachine}
    (prepared : Prepared alone (HoldsAlone machine store) machine store copy after) :
    after = store ∨ ∃ server serverClass, copy.namedServer? = some server ∧
      store.serverBindings.get? server = none ∧
        after = store.withCreated (claim machine server serverClass) := by
  cases prepared with
  | idle _ _ _ _ same => exact .inl (Eq.symm same)
  | holds server _ names _ _ held =>
      rcases held with ⟨same, _⟩ | ⟨free, serverClass, same⟩
      · exact .inl same.symm
      · exact .inr ⟨server, serverClass, names, free, same⟩

theorem Accord.of_prepared {machine copy : MetalMachine} (accord : store.Accord)
    (prepared : Prepared alone (HoldsAlone machine store) machine store copy after) :
    after.WellKept ∧ after.metalMachines = store.metalMachines := by
  rcases new_of_prepared prepared with rfl | ⟨_, _, _, _, rfl⟩
  · exact ⟨accord.toWellKept, rfl⟩
  · exact ⟨accord.toWellKept.withCreated _, rfl⟩

/-- An allocation that is written back keeps the accord. -/
theorem Accord.settles_of_prepared {machine copy : MetalMachine} {last : Store}
    (accord : store.Accord) (found : store.metalMachines.get? machine.key = some machine)
    (prepared : Prepared alone (HoldsAlone machine store) machine store copy after)
    (rewritten : Rewritten machine copy.spec.serverRef after last) : store.Settles last := by
  have named := accord.machine_named _ machine found
  have new_binding := new_of_prepared prepared
  have same_machines := (accord.of_prepared prepared).2
  obtain ⟨written, found_written, written_ref, written_stays, written_name⟩ := rewritten.own
  have found_other : ∀ key, key ≠ machine.key →
      last.metalMachines.get? key = store.metalMachines.get? key := fun key other =>
    (rewritten.others key other).trans (congrArg (·.get? key) same_machines)
  have holds_last : ∀ key server, after.Holds key server → last.Holds key server := by
    rintro key server ⟨binding, found_binding, held⟩
    exact ⟨binding, rewritten.serverBindings ▸ found_binding, held⟩
  refine accord.settles_of_grows rewritten.kept ?machine_named ?names ?backed ?bindings ?held
  case machine_named =>
    intro key present found_present
    by_cases same : key = machine.key
    · subst same
      obtain rfl : written = present := Option.some.inj (found_written.symm.trans found_present)
      rwa [written_name]
    · exact accord.machine_named key present (found_other key same ▸ found_present)
  case names =>
    intro key old reference found_old named_old
    by_cases same : key = machine.key
    · subst same
      obtain rfl : machine = old := Option.some.inj (found.symm.trans found_old)
      exact ⟨written, found_written, written_ref.trans (prepared.names_keep named_old)⟩
    · exact ⟨old, (found_other key same).trans found_old, named_old⟩
  case backed =>
    intro key later reference found_later stays named_later
    by_cases same : key = machine.key
    · subst same
      obtain rfl : written = later := Option.some.inj (found_written.symm.trans found_later)
      rcases prepared.backed (written_ref.symm.trans named_later) with old | held
      · exact .inr ⟨machine, found, written_stays ▸ stays, old⟩
      · refine .inl (holds_last _ _ ?_)
        rcases held with ⟨rfl, held⟩ | ⟨_, serverClass, rfl⟩
        · exact held
        · exact holds_withCreated named _ serverClass
    · exact .inr ⟨later, found_other key same ▸ found_later, stays, named_later⟩
  case bindings =>
    intro server binding found_binding
    rw [rewritten.serverBindings] at found_binding
    rcases new_binding with rfl | ⟨claimed, serverClass, names, _, rfl⟩
    · exact ⟨accord.binding_named server binding found_binding, .inl ⟨binding, found_binding, rfl⟩⟩
    · rcases Dict.get?_insert_eq_some.1 found_binding with ⟨rfl, rfl⟩ | ⟨_, found_binding⟩
      · have holder := holder_claim named server serverClass
        have found_holder := (congrArg last.metalMachines.get? holder).trans found_written
        refine ⟨rfl, .inr ⟨written, found_holder, ?_⟩⟩
        rw [MetalMachine.namedServer?, written_ref]
        exact names
      · exact ⟨accord.binding_named server binding found_binding,
          .inl ⟨binding, found_binding, rfl⟩⟩
  case held =>
    rintro key server ⟨binding, found_binding, held⟩
    refine holds_last key server ⟨binding, ?_, held⟩
    rcases new_binding with rfl | ⟨claimed, serverClass, _, free, rfl⟩
    · exact found_binding
    · have different : server ≠ claimed := by
        rintro rfl
        cases free.symm.trans found_binding
      exact (Dict.get?_insert_of_ne different _ _).trans found_binding

/-- A machine that is marked for deletion was written back or went, and nothing else happened. -/
structure Dismissed (key : ObjectKey) (before after : Store) : Prop where
  /-- The store is in order. -/
  kept : after.WellKept
  /-- No binding was touched. -/
  serverBindings : after.serverBindings = before.serverBindings
  /-- No other machine was touched. -/
  others : ∀ other, other ≠ key →
    after.metalMachines.get? other = before.metalMachines.get? other
  /-- The machine is marked for deletion if it is there still. -/
  own : ∀ later, after.metalMachines.get? key = some later →
    later.isDeleting = true ∧ later.metadata.name.isSome = true

/-- What a release that is left alone leaves: bindings of the machine went, and if none was left the
machine may have gone too. -/
inductive LetGo (key : ObjectKey) (before : Store) : Store → Prop
  /-- Bindings of the machine went. -/
  | relieved {after : Store} (relieved : Relieved key before after) : LetGo key before after
  /-- The machine was written back or went. -/
  | dismissed {now after : Store} (relieved : Relieved key before now)
      (free : now.HoldsNothing key) (dismissed : Dismissed key now after) : LetGo key before after

/-- A release that deleted bindings of the machine keeps the accord. -/
theorem Accord.settles_of_relieved {machine : MetalMachine} (accord : store.Accord)
    (found : store.metalMachines.get? machine.key = some machine)
    (deleting : machine.isDeleting = true) (relieved : Relieved machine.key store after) :
    store.Settles after := by
  refine ⟨⟨relieved.wellKept accord.toWellKept, ?_, ?_, ?_⟩, ?_⟩
  · exact fun name binding found_binding =>
      accord.binding_named name binding (relieved.old name binding found_binding)
  · exact fun key present found_present =>
      accord.machine_named key present (relieved.metalMachines ▸ found_present)
  · intro server binding found_binding
    rw [relieved.metalMachines]
    exact accord.named server binding (relieved.old server binding found_binding)
  · rintro key reference ⟨⟨present, found_present, stays, names⟩, without⟩
    rw [relieved.metalMachines] at found_present
    refine ⟨⟨present, found_present, stays, names⟩, ?_⟩
    rintro ⟨binding, found_binding, held⟩
    have other : binding.isHeldBy machine.key = false := by
      refine Bool.eq_false_iff.2 fun held_too => ?_
      have same : key = machine.key :=
        (ServerBinding.isHeldBy_iff.1 held).symm.trans (ServerBinding.isHeldBy_iff.1 held_too)
      subst same
      obtain rfl : machine = present := Option.some.inj (found.symm.trans found_present)
      exact nomatch stays.symm.trans deleting
    exact without ⟨binding, relieved.others _ binding found_binding other, held⟩

/-- A machine that holds nothing may go. -/
theorem Accord.settles_of_dismissed {key : ObjectKey} (accord : store.Accord)
    (holds_nothing : store.HoldsNothing key) (dismissed : Dismissed key store after) :
    store.Settles after := by
  refine ⟨⟨dismissed.kept, ?_, ?_, ?_⟩, ?_⟩
  · exact fun name binding found_binding =>
      accord.binding_named name binding (dismissed.serverBindings ▸ found_binding)
  · intro other present found_present
    by_cases same : other = key
    · subst same
      exact (dismissed.own present found_present).2
    · exact accord.machine_named other present (dismissed.others other same ▸ found_present)
  · intro server binding found_binding
    rw [dismissed.serverBindings] at found_binding
    have other : binding.holder ≠ key := fun same =>
      nomatch (holds_nothing server binding found_binding).symm.trans
        (ServerBinding.isHeldBy_iff.2 same)
    rw [dismissed.others _ other]
    exact accord.named server binding found_binding
  · rintro other reference ⟨⟨present, found_present, stays, names⟩, without⟩
    have different : other ≠ key := by
      rintro rfl
      exact nomatch stays.symm.trans (dismissed.own present found_present).1
    refine ⟨⟨present, dismissed.others other different ▸ found_present, stays, names⟩, ?_⟩
    rintro ⟨binding, found_binding, held⟩
    exact without ⟨binding, dismissed.serverBindings ▸ found_binding, held⟩

theorem Accord.settles_of_letGo {machine : MetalMachine} (accord : store.Accord)
    (found : store.metalMachines.get? machine.key = some machine)
    (deleting : machine.isDeleting = true) (letGo : LetGo machine.key store after) :
    store.Settles after := by
  cases letGo with
  | relieved relieved => exact accord.settles_of_relieved found deleting relieved
  | dismissed relieved free dismissed =>
      have settles := accord.settles_of_relieved found deleting relieved
      exact settles.trans (settles.accord.settles_of_dismissed free dismissed)

end

end Store

end BareMetal
