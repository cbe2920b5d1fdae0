import BareMetal.Proofs.Claim.Evolution
import BareMetal.Proofs.Fleet
import BareMetal.Proofs.Pass.Healing
import BareMetal.Proofs.Pass.Machine
import BareMetal.Proofs.Pass.Refreshing

/-!
# Claims stand while nothing is deleted

While no machine is marked for deletion, any number of passes may run side by side: bindings stay,
machines go on naming the servers they name, and a machine to which a pass gave a server, or which
was found ready, holds its server.
-/

namespace BareMetal

open Store

/-- Nothing is deleted; the others let the store evolve, and a pass gives servers only to machines
that hold them. -/
def standing : Terms Store where
  invariant := Standing
  rely := Evolves
  keeps := Allots
  rely_refl := Evolves.refl
  rely_trans := Evolves.trans
  keeps_refl _ := allots_of_bindings rfl (Nat.le_refl _) fun _ binding found =>
    ⟨binding, found, rfl, rfl⟩

/-! ## Writing a machine back -/

/-- What is known for good of a machine that was read. -/
structure Read (machine : MetalMachine) (store : Store) : Prop where
  /-- Its version was given out. -/
  issued : store.Issued machine.metadata.resourceVersion
  /-- It did not change if it still has that version. -/
  same : ∀ stored, store.metalMachines.get? machine.key = some stored →
    stored.metadata.resourceVersion = machine.metadata.resourceVersion → stored = machine
  /-- It is still there, and names the server that it named. -/
  names : ∃ stored, store.metalMachines.get? machine.key = some stored ∧
    ∀ reference, machine.spec.serverRef = some reference →
      stored.spec.serverRef = some reference
  /-- If it was ready, it holds its server. -/
  ready : machine.isReady = true → ∃ reference, machine.spec.serverRef = some reference ∧
    store.Holds machine.key reference.name

theorem read_stable (machine : MetalMachine) : standing.Stable (Read machine) := by
  intro now later _ evolves read
  obtain ⟨stored, found, names⟩ := read.names
  obtain ⟨stored_later, found_later, names_later⟩ := evolves.machines machine.key stored found
  refine ⟨read.issued.of_le evolves.version, ?_, ⟨stored_later, found_later, ?_⟩, ?_⟩
  · intro other found_other same_version
    have issued : now.Issued other.metadata.resourceVersion := same_version ▸ read.issued
    exact read.same other (evolves.fresh _ other found_other issued) same_version
  · exact fun reference named => names_later reference (names reference named)
  · intro ready
    obtain ⟨reference, named, holds⟩ := read.ready ready
    exact ⟨reference, named, holds.of_evolves evolves⟩

theorem read_of_get? {store : Store} (sound : store.Standing) {key : ObjectKey}
    {machine : MetalMachine} (found : store.metalMachines.get? key = some machine) :
    Read machine store := by
  obtain rfl : machine.key = key := sound.machine_key key machine found
  refine ⟨sound.machine_version _ machine found, ?_, ⟨machine, found, fun _ named => named⟩,
    sound.ready _ machine found⟩
  exact fun stored found_stored _ => Option.some.inj (found_stored.symm.trans found)

/-- A machine that was read holds a server. -/
def ReadHolds (machine : MetalMachine) (server : String) (store : Store) : Prop :=
  Read machine store ∧ store.Holds machine.key server

theorem readHolds_stable (machine : MetalMachine) (server : String) :
    standing.Stable (ReadHolds machine server) :=
  fun sound evolves known =>
    ⟨read_stable machine sound evolves known.1, known.2.of_evolves evolves⟩

theorem standing_grants {machine : MetalMachine} {store : Store} (read : Read machine store)
    (named : machine.metadata.name.isSome = true) :
    Grants standing machine (ReadHolds machine) store where
  stable := readHolds_stable machine
  found now sound evolves name binding found held := by
    obtain ⟨own, named⟩ := Option.isSome_iff_exists.1 (sound.binding_named name binding found)
    refine ⟨?_, read_stable machine sound evolves read, binding, found, held⟩
    have under := sound.binding_name name binding found
    simpa [ServerBinding.anyName, Metadata.anyName, named] using under
  claimed now sound evolves server serverClass free := by
    obtain ⟨standing_after, allots⟩ := sound.withCreated free
    exact ⟨⟨standing_after, allots⟩, read_stable machine standing_after
      (evolves.trans allots.toEvolves) read, holds_withCreated named server serverClass⟩

/-- A machine is stored under a key, with a reference to a server that it holds. -/
def Served (key : ObjectKey) (reference : Reference) (store : Store) : Prop :=
  (∃ stored, store.metalMachines.get? key = some stored ∧
    stored.spec.serverRef = some reference) ∧ store.Holds key reference.name

theorem served_stable (key : ObjectKey) (reference : Reference) :
    standing.Stable (Served key reference) := by
  rintro now later _ evolves ⟨⟨stored, found, named⟩, holds⟩
  obtain ⟨stored_later, found_later, names_later⟩ := evolves.machines key stored found
  exact ⟨⟨stored_later, found_later, names_later reference named⟩, holds.of_evolves evolves⟩

section

variable {machine after : MetalMachine} {store : Store}

/-- A status is written back that reports a machine ready only if the machine is served. -/
theorem commitMachineStatus_standing
    (served : after.isReady = true → ∃ reference, Served after.key reference store) :
    (commitMachineStatus machine after).Secures standing (fun _ _ => True) store := by
  refine commitMachineStatus_secures ?_ ?_ ?_
  · exact fun _ _ _ _ => trivial
  · exact fun _ _ _ _ _ _ _ _ => trivial
  · intro now sound acted present found _
    refine ⟨sound.withMachine found (sound.machine_key _ present found) rfl
      (sound.machine_named _ present found) (sound.stays _ present found) ?_ ?_ ?_,
      fun _ _ _ => trivial⟩
    · exact fun _ named => named
    · exact fun _ named => .inl named
    · intro ready
      obtain ⟨reference, served⟩ := served ready
      obtain ⟨⟨stored, found_stored, named⟩, holds⟩ := served_stable _ _ sound acted served
      obtain rfl : present = stored := Option.some.inj (found.symm.trans found_stored)
      exact ⟨reference, named, holds⟩

/-- A machine is ready after an allocation only with a server that it holds. -/
theorem ready_of_prepared {start : Store} (read : Read machine store)
    (prepared : Prepared standing (ReadHolds machine) machine start after store)
    (ready : after.isReady = true) : ∃ reference, after.spec.serverRef = some reference ∧
      store.Holds after.key reference.name := by
  rw [prepared.key_eq]
  cases prepared with
  | idle _ serverRef _ same_ready =>
      rw [serverRef]
      exact read.ready (same_ready.symm.trans ready)
  | holds server _ names _ _ holds =>
      obtain ⟨reference, named, rfl⟩ := Option.map_eq_some_iff.1 names
      exact ⟨reference, named, holds.2⟩

/-- A machine as an allocation leaves it may be written back. -/
theorem commitMachine_standing {start : Store} (sound : store.Standing)
    (read_start : Read machine start) (named : machine.metadata.name.isSome = true)
    (stays : machine.isDeleting = false)
    (prepared : Prepared standing (ReadHolds machine) machine start after store) :
    (commitMachine machine after).Secures standing (fun _ _ => True) store := by
  have read : Read machine store := by
    cases prepared with
    | idle _ _ _ _ evolves => exact read_stable machine sound evolves read_start
    | holds _ _ _ _ _ known => exact known.1
  have key_eq := prepared.key_eq
  have ready_holds := ready_of_prepared read prepared
  refine commitMachine_secures ?_ ?_ ?_ ?_ ?_
  · intro unchanged
    have same_spec := (MetalMachine.bodyChanged_eq_false_iff.1 unchanged).2
    refine commitMachineStatus_standing fun ready => ?_
    obtain ⟨reference, named, holds⟩ := ready_holds ready
    obtain ⟨stored, found, names⟩ := read.names
    exact ⟨reference, ⟨stored, key_eq ▸ found, names reference (same_spec ▸ named)⟩, holds⟩
  · exact fun _ _ _ _ _ _ _ _ => trivial
  · exact fun _ _ _ _ _ _ _ _ _ _ => trivial
  · intro now sound _ stored found _ released
    have stays : stored.isDeleting = false := sound.stays _ stored found
    have deleting : stored.isDeleting = true := (Bool.and_eq_true_iff.1 released).1
    exact nomatch stays.symm.trans deleting
  · intro now sound acted stored found current _
    have read_now : Read machine now := read_stable machine sound acted read
    have version_given : after.metadata.resourceVersion.isSome = true := by
      obtain ⟨number, _, given⟩ := read.issued
      rw [prepared.resourceVersion_eq, given]
      rfl
    obtain rfl : stored = machine := read_now.same stored (key_eq ▸ found) <|
      (resourceVersion_of_not_isStale current version_given).trans prepared.resourceVersion_eq
    have names_keep : ∀ reference, stored.spec.serverRef = some reference →
        after.spec.serverRef = some reference := fun _ => prepared.names_keep
    have backed : ∀ reference, after.spec.serverRef = some reference →
        stored.spec.serverRef = some reference ∨ now.Holds after.key reference.name := by
      intro reference names
      rcases prepared.backed names with old | holds
      · exact .inl old
      · exact .inr (key_eq ▸ holds.2.of_evolves acted)
    have ready : stored.isReady = true → ∃ reference, after.spec.serverRef = some reference ∧
        now.Holds after.key reference.name := by
      intro ready
      obtain ⟨reference, names, holds⟩ := read_now.ready ready
      exact ⟨reference, names_keep reference names, key_eq ▸ holds⟩
    obtain ⟨standing_after, allots⟩ := sound.withMachine found
      (show (now.updatedMachine stored after).key = after.key from key_eq.symm) rfl named stays
      names_keep backed ready
    refine ⟨⟨standing_after, allots⟩, commitMachineStatus_standing fun ready => ?_⟩
    obtain ⟨reference, names, holds⟩ := ready_holds ready
    have holds_after := (holds.of_evolves acted).of_evolves allots.toEvolves
    exact ⟨reference, ⟨_, Dict.get?_insert_self _ _ _, names⟩, holds_after⟩

end

/-! ## Passes -/

theorem machinePass_standing (key : ObjectKey) (store : Store) :
    (machinePass key).Secures standing (fun _ _ => True) store := by
  refine machinePass_secures ?_ fun _ _ _ _ _ _ _ => trivial
  intro now sound _ machine found
  have named := sound.machine_named key machine found
  have stays := sound.stays key machine found
  have read : Read machine now := read_of_get? sound found
  refine currentMachinePass_secures stays (standing_grants read named) (fun _ _ _ => trivial) ?_ key
  intro after later sound_later prepared
  exact (commitMachine_standing sound_later read named stays prepared).weaken
    fun _ _ _ _ _ _ _ => trivial

theorem serverPass_standing (server : String) (store : Store) :
    (serverPass server).Secures standing (fun _ _ => True) store := by
  have heals : Heals standing server (fun _ _ => True) (fun _ => True) store := {
    stable := fun _ _ _ _ _ _ => trivial
    stable_healed := fun _ _ _ => trivial
    shows := fun _ _ _ _ _ _ _ => trivial
    claimed := fun now sound _ machine _ _ free => ⟨sound.withCreated free, trivial⟩ }
  exact (serverPass_secures heals).weaken fun _ _ _ _ => trivial

theorem bindingPass_standing (name : String) (store : Store) :
    (bindingPass name).Secures standing (fun _ _ => True) store := by
  refine bindingPass_secures (fun _ _ _ => trivial) trivial ?_ name
  exact fun now sound _ name binding status found => ⟨sound.withBinding found status, trivial⟩

theorem classPass_standing (name : String) (store : Store) :
    (classPass name).Secures standing (fun _ _ => True) store := by
  refine classPass_secures (fun _ _ _ => trivial) ?_ name trivial
  exact fun now sound _ name change =>
    ⟨sound.of_leavesClaims (leavesClaims_changeServerClass now name change), trivial⟩

/-- Every pass may be started at any time. -/
theorem pass_standing (subject : Subject) (store : Store) :
    subject.pass.Secures standing (fun _ _ => True) store := by
  cases subject with
  | machine key => exact machinePass_standing key store
  | binding name => exact bindingPass_standing name store
  | server name => exact serverPass_standing name store
  | serverClass name => exact classPass_standing name store

/-! ## Fleets -/

/-- What comes from outside while nothing is deleted. -/
inductive Arrives (before : Store) : Store → Prop
  /-- Servers and classes change in any way, and so do owner machines and clusters. -/
  | elsewhere {after : Store} (leaves : LeavesClaims before after) : Arrives before after
  /-- A new machine is put in that is neither ready nor marked for deletion. -/
  | machine (machine : MetalMachine) (named : machine.metadata.name.isSome = true)
      (stays : machine.isDeleting = false) (unready : machine.isReady = false)
      (unused : before.metalMachines.get? machine.key = none) :
      Arrives before (before.addMetalMachine machine)

/-- A fleet before any pass was started: nothing is claimed, ready or marked for deletion. -/
structure Opening (fleet : Fleet) : Prop where
  /-- The store came about by its operations. -/
  arises : fleet.store.Arises
  /-- No pass was started. -/
  no_pass : fleet.passes = []
  /-- There is no binding. -/
  unclaimed : ∀ name, fleet.store.serverBindings.get? name = none
  /-- Machines have names. -/
  machine_named : ∀ key machine, fleet.store.metalMachines.get? key = some machine →
    machine.metadata.name.isSome = true
  /-- No machine is marked for deletion. -/
  stays : ∀ key machine, fleet.store.metalMachines.get? key = some machine →
    machine.isDeleting = false
  /-- No machine is ready. -/
  unready : ∀ key machine, fleet.store.metalMachines.get? key = some machine →
    machine.isReady = false

/-- In the course of a run an answer to a pass made a machine name a server. -/
def Assigned (first last : Fleet) (key : ObjectKey) (reference : Reference) : Prop :=
  ∃ front before pass query answer after back, first.Run Arrives front before ∧
    before.Step Arrives (.answer pass query answer) after ∧ after.Run Arrives back last ∧
      before.store.reference? key ≠ some reference ∧ after.store.reference? key = some reference

/-- A machine names a server that a pass gave it or with which it is ready. -/
def Settled (first last : Fleet) (key : ObjectKey) (reference : Reference) : Prop :=
  last.store.reference? key = some reference ∧
    (Assigned first last key reference ∨
      (last.store.metalMachines.get? key).any MetalMachine.isReady = true)

/-- A fleet in which nothing is deleted, and in which every pass is on these terms. -/
def Fleet.Stands (fleet : Fleet) : Prop :=
  fleet.store.Standing ∧ fleet.Secured (fun _ => standing) fun _ _ _ => True

theorem Opening.stands {fleet : Fleet} (opening : Opening fleet) : fleet.Stands := by
  refine ⟨⟨opening.arises.wellKept, ?_, opening.machine_named, opening.stays, ?_⟩, ?_⟩
  · exact fun name binding found => nomatch (opening.unclaimed name).symm.trans found
  · exact fun key machine found ready =>
      nomatch (opening.unready key machine found).symm.trans ready
  · intro pass running found
    rw [opening.no_pass] at found
    exact nomatch found

theorem Arrives.standing {before after : Store} (arrives : Arrives before after)
    (sound : before.Standing) : after.Standing ∧ before.Evolves after := by
  cases arrives with
  | elsewhere leaves =>
      obtain ⟨sound_after, allots⟩ := sound.of_leavesClaims leaves
      exact ⟨sound_after, allots.toEvolves⟩
  | machine machine named stays unready unused =>
      exact sound.addMetalMachine named stays unready unused

theorem Fleet.Stands.answer {before after : Fleet} {pass : Nat} {query : PassQuery}
    {answer : query.Answer} (stands : before.Stands)
    (step : before.Step Arrives (.answer pass query answer) after) :
    after.Stands ∧ before.store.Allots after.store := by
  obtain ⟨sound, secured⟩ := stands
  cases step with
  | answer at_query answered =>
      obtain ⟨sound_after, allots, secured_after⟩ := secured.answer at_query answered sound
        fun _ _ _ _ allots => allots.toEvolves
      exact ⟨⟨sound_after, secured_after⟩, allots⟩

/-- Whatever happens to a fleet, its store evolves. -/
theorem Fleet.Stands.step {before after : Fleet} {act : Act} (stands : before.Stands)
    (step : before.Step Arrives act after) : after.Stands ∧ before.store.Evolves after.store := by
  cases step with
  | start subject =>
      exact ⟨⟨stands.1, stands.2.start (pass_standing subject before.store)⟩, .refl _⟩
  | answer at_query answered =>
      obtain ⟨stands_after, allots⟩ := stands.answer (.answer at_query answered)
      exact ⟨stands_after, allots.toEvolves⟩
  | outside arrives =>
      obtain ⟨sound_after, evolves⟩ := arrives.standing stands.1
      exact ⟨⟨sound_after, stands.2.outside fun _ _ _ => evolves⟩, evolves⟩

theorem Fleet.Stands.run {first last : Fleet} {acts : List Act} (stands : first.Stands)
    (run : first.Run Arrives acts last) : last.Stands ∧ first.store.Evolves last.store := by
  induction run with
  | refl => exact ⟨stands, .refl _⟩
  | step _ step ih =>
      obtain ⟨stands_before, evolves⟩ := ih
      obtain ⟨stands_after, evolves_again⟩ := stands_before.step step
      exact ⟨stands_after, evolves.trans evolves_again⟩

/-- A machine that was given a server in the course of a run is served in the end. -/
theorem Assigned.served {first last : Fleet} {key : ObjectKey} {reference : Reference}
    (assigned : Assigned first last key reference) (stands : first.Stands) :
    Served key reference last.store := by
  obtain ⟨front, before, pass, query, answer, after, back, reached, step, run, was, names⟩ :=
    assigned
  obtain ⟨stands_before, _⟩ := stands.run reached
  obtain ⟨stands_after, allots⟩ := stands_before.answer step
  obtain ⟨stands_last, evolves⟩ := stands_after.run run
  obtain ⟨machine, found, named⟩ := Option.bind_eq_some_iff.1 names
  have holds : after.store.Holds key reference.name := by
    rcases allots.backed key machine reference found named with ⟨old, found_old, old_named⟩ | holds
    · exact absurd (Option.bind_eq_some_iff.2 ⟨old, found_old, old_named⟩) was
    · exact holds
  exact served_stable key reference stands_last.1 evolves ⟨⟨machine, found, named⟩, holds⟩

/-- While nothing is deleted bindings stay as they are, machines go on naming their servers, and
every machine that was given a server or is ready holds the server that it names, which no other
such machine names. -/
theorem claims_stand {first before last : Fleet} {front back : List Act}
    (opening : Opening first) (reached : first.Run Arrives front before)
    (run : before.Run Arrives back last) :
    (∀ name binding, before.store.serverBindings.get? name = some binding →
      ∃ later, last.store.serverBindings.get? name = some later ∧
        later.metadata.name = binding.metadata.name ∧ later.spec = binding.spec) ∧
    (∀ key reference, before.store.reference? key = some reference →
      last.store.reference? key = some reference) ∧
    (∀ key reference, Assigned first last key reference →
      last.store.reference? key = some reference ∧ last.store.Holds key reference.name) ∧
    (∀ key machine, last.store.metalMachines.get? key = some machine → machine.isReady = true →
      ∃ reference, last.store.reference? key = some reference ∧
        last.store.Holds key reference.name) ∧
    ∀ key other reference reference_too, Settled first last key reference →
      Settled first last other reference_too → reference.name = reference_too.name →
        key = other := by
  obtain ⟨stands_before, _⟩ := opening.stands.run reached
  obtain ⟨stands_last, evolves⟩ := stands_before.run run
  have ready_holds : ∀ key machine, last.store.metalMachines.get? key = some machine →
      machine.isReady = true → ∃ reference, last.store.reference? key = some reference ∧
        last.store.Holds key reference.name := by
    intro key machine found ready
    obtain ⟨reference, named, holds⟩ := stands_last.1.ready key machine found ready
    exact ⟨reference, Option.bind_eq_some_iff.2 ⟨machine, found, named⟩, holds⟩
  have settled_holds : ∀ key reference, Settled first last key reference →
      last.store.Holds key reference.name := by
    rintro key reference ⟨names, assigned | ready⟩
    · exact (assigned.served opening.stands).2
    · obtain ⟨machine, found, machine_ready⟩ := (Option.any_eq_true _ _).1 ready
      obtain ⟨own, own_names, holds⟩ := ready_holds key machine found machine_ready
      rw [names] at own_names
      exact Option.some.inj own_names ▸ holds
  refine ⟨evolves.bindings, ?_, ?_, ready_holds, ?_⟩
  · intro key reference names
    obtain ⟨machine, found, named⟩ := Option.bind_eq_some_iff.1 names
    obtain ⟨later, found_later, names_later⟩ := evolves.machines key machine found
    exact Option.bind_eq_some_iff.2 ⟨later, found_later, names_later reference named⟩
  · intro key reference assigned
    obtain ⟨⟨machine, found, named⟩, holds⟩ := assigned.served opening.stands
    exact ⟨Option.bind_eq_some_iff.2 ⟨machine, found, named⟩, holds⟩
  · intro key other reference reference_too settled settled_too same
    have holds_too := settled_holds other reference_too settled_too
    rw [← same] at holds_too
    exact (settled_holds key reference settled).unique holds_too

/-- A fleet with a machine that names a server and one that names the class of that server. -/
def contended : Fleet where
  store := ((Laboratory.store ["s"]).addMetalMachine
    (Laboratory.machine "a" { serverRef := some (.ofName "s") })).addMetalMachine
    (Laboratory.machine "b" { serverClassRef := some (.ofName "pool") })

/-- Passes over both machines side by side, of which the second has claimed the server when the
first looks for a binding. -/
def contendedBefore : Fleet :=
  (contended.launch [.machine (Laboratory.key "a"), .machine (Laboratory.key "b")]).play
    (List.replicate 9 1 ++ (List.replicate 12 [0, 1]).flatten)

/-- A pass over the binding, and then one more over the second machine. -/
def contendedLast : Fleet :=
  (contendedBefore.launch [.binding "s", .machine (Laboratory.key "b")]).play
    (List.replicate 4 2 ++ List.replicate 20 3)

theorem contended_opening : Opening contended := by
  have only_good : contended.store.metalMachines.entries.all (fun entry =>
      entry.2.metadata.name.isSome && !entry.2.isDeleting && !entry.2.isReady) = true := by
    decide +kernel
  have good : ∀ key machine, contended.store.metalMachines.get? key = some machine →
      (machine.metadata.name.isSome = true ∧ machine.isDeleting = false) ∧
        machine.isReady = false := by
    intro key machine found
    have passes := List.all_eq_true.1 only_good _ (Dict.get?_eq_some_iff.1 found)
    simpa using passes
  exact {
    arises := ((Laboratory.store_arises ["s"]).addMetalMachine
      (Laboratory.machine "a" { serverRef := some (.ofName "s") })).addMetalMachine
      (Laboratory.machine "b" { serverClassRef := some (.ofName "pool") })
    no_pass := rfl
    unclaimed := fun _ => rfl
    machine_named := fun key machine found => (good key machine found).1.1
    stays := fun key machine found => (good key machine found).1.2
    unready := fun key machine found => (good key machine found).2 }

/-- The machine that claimed the server of its class is ready with it, although another machine
names that server. -/
theorem claims_stand_contended :
    Opening contended ∧ (∃ acts, contended.Run Arrives acts contendedBefore) ∧
      (∃ acts, contendedBefore.Run Arrives acts contendedLast) ∧
      contendedLast.store.reference? (Laboratory.key "a") = some (.ofName "s") ∧
      contendedLast.store.reference? (Laboratory.key "b") = some (.ofName "s") ∧
      contendedLast.store.Holds (Laboratory.key "b") "s" := by
  obtain ⟨starts, launched⟩ := Fleet.launch_run Arrives contended
    [.machine (Laboratory.key "a"), .machine (Laboratory.key "b")]
  obtain ⟨answers, played⟩ := Fleet.play_run Arrives
    (contended.launch [.machine (Laboratory.key "a"), .machine (Laboratory.key "b")])
    (List.replicate 9 1 ++ (List.replicate 12 [0, 1]).flatten)
  obtain ⟨starts_again, launched_again⟩ := Fleet.launch_run Arrives contendedBefore
    [.binding "s", .machine (Laboratory.key "b")]
  obtain ⟨answers_again, played_again⟩ := Fleet.play_run Arrives
    (contendedBefore.launch [.binding "s", .machine (Laboratory.key "b")])
    (List.replicate 4 2 ++ List.replicate 20 3)
  have reached : contended.Run Arrives (starts ++ answers) contendedBefore :=
    launched.append played
  have run : contendedBefore.Run Arrives (starts_again ++ answers_again) contendedLast :=
    launched_again.append played_again
  have named : contendedLast.store.reference? (Laboratory.key "b") = some (.ofName "s") := by
    decide +kernel
  have ready : (contendedLast.store.metalMachines.get? (Laboratory.key "b")).any
      MetalMachine.isReady = true := by decide +kernel
  obtain ⟨machine, found, machine_ready⟩ := (Option.any_eq_true _ _).1 ready
  obtain ⟨reference, names, holds⟩ :=
    (claims_stand contended_opening reached run).2.2.2.1 _ machine found machine_ready
  have same : reference = .ofName "s" := Option.some.inj (names.symm.trans named)
  rw [same] at holds
  exact ⟨contended_opening, ⟨_, reached⟩, ⟨_, run⟩, by decide +kernel, named, holds⟩

end BareMetal
