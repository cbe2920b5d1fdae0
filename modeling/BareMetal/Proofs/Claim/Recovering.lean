import BareMetal.Proofs.Claim.Evolution
import BareMetal.Proofs.Fleet
import BareMetal.Proofs.Names
import BareMetal.Proofs.Pass.Healing
import BareMetal.Proofs.Pass.Machine
import BareMetal.Proofs.Pass.Refreshing

/-!
# Passes that find what an earlier pass claimed

A pass over a machine that names a class may be given up at any time, also after it claimed a server
and before the machine names it.  The claim stays in the store, and the next pass finds it there.
The passes over other objects neither take the server nor give the machine another one.
-/

namespace BareMetal

open Store

variable {store before after : Store} {key other : ObjectKey} {subject : Subject}
  {machine copy : MetalMachine} {name server : String}

/-! ## The terms of recovery -/

namespace Store

/-- Bindings and machines are what they go by, as far as the machine of a key is concerned. -/
structure Unmistaken (store : Store) (key : ObjectKey) : Prop where
  /-- Bindings go by the names that they lie under. -/
  anyName : ∀ name binding, store.serverBindings.get? name = some binding →
    binding.anyName = name
  /-- No other machine claims in the name of the machine. -/
  claimant : ∀ other machine, store.metalMachines.get? other = some machine →
    machine.claimant = key → other = key

/-- A store in which the machine of a key holds at most one server and names no other. -/
structure Recovering (store : Store) (key : ObjectKey) : Prop
    extends store.WellKept, store.Unmistaken key where
  /-- The machine stays, holds the server that it names, and names a class. -/
  own : ∃ machine, store.metalMachines.get? key = some machine ∧ store.Keeps machine ∧
    machine.spec.serverClassRef.isSome = true
  /-- The machine holds at most one server. -/
  single : ∀ server other, store.Holds key server → store.Holds key other → server = other

theorem Recovering.get?_ne_none (sound : store.Recovering key) :
    store.metalMachines.get? key ≠ none := by
  obtain ⟨machine, found, _⟩ := sound.own
  simp [found]

theorem Recovering.of_get? (sound : store.Recovering key)
    (found : store.metalMachines.get? key = some machine) :
    store.Keeps machine ∧ machine.spec.serverClassRef.isSome = true := by
  obtain ⟨own, found_own, keeps⟩ := sound.own
  obtain rfl : machine = own := Option.some.inj (found.symm.trans found_own)
  exact keeps

/-- What others leave to the pass over an object. -/
structure Respects (key : ObjectKey) (subject : Subject) (before after : Store) : Prop where
  /-- The machine keeps its server, and a machine that the pass is over keeps all of its servers. -/
  holds : ∀ machine, machine = key ∨ subject = .machine machine → ∀ server,
    before.Holds machine server → after.Holds machine server
  /-- Nobody else claims a server for the machine. -/
  gains : subject = .machine key → ∀ server, after.Holds key server → before.Holds key server
  /-- Nobody else writes the reference of the machine. -/
  reference : subject = .machine key → after.reference? key = before.reference? key

/-- What the pass over an object does with a query. -/
structure Honours (key : ObjectKey) (subject : Subject) (before after : Store) : Prop where
  /-- The machine keeps its server, and only a pass over a machine takes servers from it. -/
  holds : ∀ machine, machine = key ∨ subject ≠ .machine machine → ∀ server,
    before.Holds machine server → after.Holds machine server
  /-- Only a pass over the machine claims a server for it. -/
  gains : subject ≠ .machine key → ∀ server, after.Holds key server → before.Holds key server
  /-- Only a pass over the machine writes its reference. -/
  reference : subject ≠ .machine key → after.reference? key = before.reference? key
  /-- A pass over the machine creates no binding once the machine holds a server. -/
  idle : subject = .machine key → ∀ server, before.Holds key server → ∀ name,
    before.serverBindings.get? name = none → after.serverBindings.get? name = none

/-- What the pass over one object does it leaves to the pass over another. -/
theorem Honours.respects {rival : Subject} (honours : Honours key rival before after)
    (differs : subject ≠ rival) : Respects key subject before after where
  holds machine concerned := honours.holds machine <| concerned.imp_right fun own_pass same =>
    differs (own_pass.trans same.symm)
  gains own_pass := honours.gains fun same => differs (own_pass.trans same.symm)
  reference own_pass := honours.reference fun same => differs (own_pass.trans same.symm)

/-- A write that leaves all servers where they are. -/
theorem Honours.of_holds_iff
    (holds_iff : ∀ machine server, after.Holds machine server ↔ before.Holds machine server)
    (reference : subject ≠ .machine key → after.reference? key = before.reference? key)
    (free : ∀ name, before.serverBindings.get? name = none →
      after.serverBindings.get? name = none) : Honours key subject before after where
  holds machine _ server := (holds_iff machine server).2
  gains _ server := (holds_iff key server).1
  reference := reference
  idle _ _ _ := free

theorem Honours.of_serverBindings (serverBindings : after.serverBindings = before.serverBindings)
    (reference : subject ≠ .machine key → after.reference? key = before.reference? key) :
    Honours key subject before after :=
  .of_holds_iff (fun _ _ => holds_congr serverBindings) reference
    fun _ free => serverBindings ▸ free

end Store

/-- The terms of the pass over an object while a machine is to come to hold one server. -/
def recovering (key : ObjectKey) (subject : Subject) : Terms Store where
  invariant := (Recovering · key)
  rely := Respects key subject
  keeps := Honours key subject
  rely_refl _ := ⟨fun _ _ _ holds => holds, fun _ _ holds => holds, fun _ => rfl⟩
  rely_trans front back :=
    ⟨fun machine concerned server holds =>
        back.holds machine concerned server (front.holds machine concerned server holds),
      fun own_pass server holds => front.gains own_pass server (back.gains own_pass server holds),
      fun own_pass => (back.reference own_pass).trans (front.reference own_pass)⟩
  keeps_refl _ := .of_serverBindings rfl fun _ => rfl

/-! ## Writes of bindings -/

theorem Store.Recovering.of_bindings (sound : before.Recovering key) (kept : after.WellKept)
    (metalMachines : after.metalMachines = before.metalMachines)
    (anyName : ∀ name binding, after.serverBindings.get? name = some binding →
      binding.anyName = name)
    (holds : ∀ server, before.Holds key server → after.Holds key server)
    (single : ∀ server other, after.Holds key server → after.Holds key other → server = other) :
    after.Recovering key where
  toWellKept := kept
  anyName := anyName
  claimant other machine found := sound.claimant other machine (metalMachines ▸ found)
  own := by
    obtain ⟨machine, found, keeps, classed⟩ := sound.own
    obtain rfl : machine.key = key := sound.machine_key key machine found
    exact ⟨machine, metalMachines ▸ found, ⟨keeps.named, keeps.stays, fun server names =>
      holds server (keeps.backed server names)⟩, classed⟩
  single := single

theorem Store.Recovering.of_leavesClaims (sound : before.Recovering key)
    (leaves : LeavesClaims before after) : after.Recovering key := by
  have holds_iff : ∀ server, after.Holds key server ↔ before.Holds key server :=
    fun _ => holds_congr leaves.serverBindings
  refine sound.of_bindings (sound.toWellKept.of_leavesClaims leaves) leaves.metalMachines ?_
    (fun server => (holds_iff server).2) ?_
  · exact fun name binding found => sound.anyName name binding (leaves.serverBindings ▸ found)
  · exact fun server other holds holds_too =>
      sound.single server other ((holds_iff server).1 holds) ((holds_iff other).1 holds_too)

/-- A server may be claimed for another machine, and for the machine by a pass over it as long as it
holds none. -/
theorem Store.Recovering.creates (sound : store.Recovering key)
    (others : subject ≠ .machine key → machine.claimant ≠ key)
    (lacks : subject = .machine key → store.HoldsNothing key)
    (free : store.serverBindings.get? server = none) (serverClass : Option Reference) :
    (recovering key subject).Permits store
      (store.withCreated (claim machine server serverClass)) := by
  have holds_iff := fun key name =>
    @holds_withCreated_iff store machine server free serverClass key name
  have none_held : machine.claimant = key → ∀ name, ¬store.Holds key name := by
    intro own
    refine holdsNothing_iff.1 (lacks ?_)
    exact Classical.not_not.1 fun differs => others differs own
  constructor
  · refine sound.of_bindings (sound.toWellKept.withCreated _) rfl ?_ ?_ ?_
    · intro name binding found
      rcases Dict.get?_insert_eq_some.1 found with ⟨rfl, rfl⟩ | ⟨_, found⟩
      · rfl
      · exact sound.anyName name binding found
    · exact fun name holds => (holds_iff key name).2 (.inl holds)
    · intro name other holds holds_too
      rcases (holds_iff key name).1 holds with old | ⟨own, rfl⟩
      · rcases (holds_iff key other).1 holds_too with old_too | ⟨own, _⟩
        · exact sound.single name other old old_too
        · exact absurd old (none_held own.symm name)
      · rcases (holds_iff key other).1 holds_too with old_too | ⟨_, rfl⟩
        · exact absurd old_too (none_held own.symm other)
        · rfl
  · refine ⟨fun machine _ name holds => (holds_iff machine name).2 (.inl holds), ?_, fun _ => rfl,
      ?_⟩
    · exact fun differs name holds => ((holds_iff key name).1 holds).resolve_right
        fun own => others differs own.1.symm
    · exact fun own_pass name holds => absurd holds (holdsNothing_iff.1 (lacks own_pass) name)

/-- A pass over another machine may delete a binding of that machine. -/
theorem Store.Recovering.deletes (sound : store.Recovering key) (differs : other ≠ key)
    (holds : store.Holds other name) : (recovering key (.machine other)).Permits store
      (store.perform (.deleteServerBinding name)).2 := by
  have kept : ∀ machine, machine ≠ other → ∀ server, store.Holds machine server →
      (store.perform (.deleteServerBinding name)).2.Holds machine server := by
    intro machine elsewhere server held
    refine holds_deleteServerBinding_iff.2 ⟨held, ?_⟩
    rintro rfl
    exact elsewhere (held.unique holds)
  constructor
  · refine sound.of_bindings (sound.toWellKept.perform (.deleteServerBinding name)) rfl ?_
      (kept key differs.symm) ?_
    · exact fun server binding found =>
        sound.anyName server binding (Dict.get?_erase_eq_some.1 found).2
    · exact fun server other held held_too => sound.single server other
        (holds_deleteServerBinding_iff.1 held).1 (holds_deleteServerBinding_iff.1 held_too).1
  · refine ⟨fun machine concerned => kept machine ?_, ?_, fun _ => rfl, ?_⟩
    · rintro rfl
      exact concerned.elim differs fun elsewhere => elsewhere rfl
    · exact fun _ server held => (holds_deleteServerBinding_iff.1 held).1
    · rintro ⟨⟩
      exact absurd rfl differs

/-- Any pass may report on a binding. -/
theorem Store.Recovering.withBinding (sound : store.Recovering key) {binding : ServerBinding}
    (found : store.serverBindings.get? name = some binding) (status : ServerBindingStatus) :
    (recovering key subject).Permits store
      (store.withBinding name (store.bindingWithStatus binding status)) := by
  have holds_iff := holds_withBinding_iff found status
  have change : store.BindingStatusChange name status (.ok ()) _ := .changed found
  constructor
  · refine sound.of_bindings (sound.toWellKept.of_bindingStatusChange change) rfl ?_
      (fun server => (holds_iff key server).2) ?_
    · intro other present found_present
      rcases Dict.get?_insert_eq_some.1 found_present with ⟨rfl, rfl⟩ | ⟨_, found_present⟩
      · exact sound.anyName _ binding found
      · exact sound.anyName other present found_present
    · exact fun server other holds holds_too => sound.single server other
        ((holds_iff key server).1 holds) ((holds_iff key other).1 holds_too)
  · refine .of_holds_iff holds_iff (fun _ => rfl) fun other free => ?_
    have differs : other ≠ name := by
      rintro rfl
      exact nomatch free.symm.trans found
    exact (Dict.get?_insert_of_ne differs _ _).trans free

/-! ## Writes of machines -/

theorem Store.Recovering.of_machines (sound : before.Recovering key) (kept : after.WellKept)
    (serverBindings : after.serverBindings = before.serverBindings)
    (claimant : ∀ other machine, after.metalMachines.get? other = some machine →
      machine.claimant = key → other = key)
    (own : ∃ machine, after.metalMachines.get? key = some machine ∧ before.Keeps machine ∧
      machine.spec.serverClassRef.isSome = true) : after.Recovering key := by
  have holds_iff : ∀ machine server, after.Holds machine server ↔ before.Holds machine server :=
    fun _ _ => holds_congr serverBindings
  obtain ⟨machine, found, keeps, classed⟩ := own
  refine ⟨kept, ⟨?_, claimant⟩, ⟨machine, found, ⟨keeps.named, keeps.stays, ?_⟩, classed⟩, ?_⟩
  · exact fun name binding found => sound.anyName name binding (serverBindings ▸ found)
  · exact fun server names => (holds_iff _ server).2 (keeps.backed server names)
  · exact fun server other holds holds_too =>
      sound.single server other ((holds_iff key server).1 holds) ((holds_iff key other).1 holds_too)

/-- A pass over the machine may write it back with a server that it holds, and a pass over another
machine may write that one back in any way. -/
theorem Store.Recovering.withMachine (sound : store.Recovering key) {stored : MetalMachine}
    (found : store.metalMachines.get? other = some stored) (keyed : machine.key = other)
    (stamped : machine.metadata.resourceVersion = some store.nextVersion)
    (claimant : machine.claimant = stored.claimant)
    (own : other = key → store.Keeps machine ∧ machine.spec.serverClassRef.isSome = true)
    (reference : subject ≠ .machine key →
      (store.withMachine other machine).reference? key = store.reference? key) :
    (recovering key subject).Permits store (store.withMachine other machine) := by
  refine ⟨sound.of_machines (sound.toWellKept.withMachine machine keyed stamped) rfl ?_ ?_,
    .of_serverBindings rfl reference⟩
  · intro some_key present found_present own_name
    rcases Dict.get?_insert_eq_some.1 found_present with ⟨rfl, rfl⟩ | ⟨_, found_present⟩
    · exact sound.claimant _ stored found (claimant.symm.trans own_name)
    · exact sound.claimant some_key present found_present own_name
  · by_cases same : other = key
    · subst same
      exact ⟨machine, Dict.get?_insert_self _ _ _, own rfl⟩
    · obtain ⟨present, found_present, rest⟩ := sound.own
      exact ⟨present, (Dict.get?_insert_of_ne (Ne.symm same) _ _).trans found_present, rest⟩

theorem Store.get?_withoutMachine (differs : other ≠ key) :
    (store.withoutMachine other).metalMachines.get? key = store.metalMachines.get? key :=
  Dict.get?_erase_of_ne differs.symm _

theorem Store.Recovering.withoutMachine (sound : store.Recovering key) (differs : other ≠ key) :
    (recovering key subject).Permits store (store.withoutMachine other) := by
  have same := store.get?_withoutMachine differs
  refine ⟨sound.of_machines (sound.toWellKept.withoutMachine other) rfl ?_ ?_,
    .of_serverBindings rfl fun _ => reference?_congr same⟩
  · exact fun some_key machine found =>
      sound.claimant some_key machine (Dict.get?_erase_eq_some.1 found).2
  · obtain ⟨machine, found, rest⟩ := sound.own
    exact ⟨machine, same.trans found, rest⟩

end BareMetal
