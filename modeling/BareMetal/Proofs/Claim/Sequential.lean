import BareMetal.Proofs.Claim.Accord
import BareMetal.Proofs.Fleet

/-!
# Passes one after the other

Passes that run one after the other, with whatever the index says, keep bindings and references in
accord.  In between machines may come and be marked for deletion, and everything that is neither a
binding nor a metal machine may change.
-/

namespace BareMetal

open Store

variable {machine copy : MetalMachine} {before store : Store}

/-! ## Commits that nothing interferes with -/

theorem finishMachine_alone {Fact : Store → Prop} {result : Except PassError Outcome}
    (commits : (commitMachine machine copy).Secures alone (fun _ => Fact) store) :
    (finishMachine machine copy result).Secures alone (fun _ => Fact) store := by
  unfold finishMachine
  refine Pass.secures_bind.2 (commits.weaken ?_)
  exact fun _ later _ fact last _ same => same ▸ fact

theorem commitMachineStatus_rewritten {serverRef : Option Reference}
    (key_eq : copy.key = machine.key) (rewritten : Rewritten machine serverRef before store) :
    (commitMachineStatus machine copy).Secures alone
      (fun _ later => Rewritten machine serverRef before later) store := by
  refine commitMachineStatus_secures ?_ ?_ ?_
  · rintro later _ rfl _
    exact rewritten
  · rintro now _ rfl _ later _ rfl _
    exact rewritten
  · rintro now _ rfl present found _
    rw [key_eq] at found ⊢
    refine ⟨⟨trivial, trivial⟩, ?_⟩
    rintro later _ rfl
    obtain ⟨stored, found_stored, own⟩ := rewritten.own
    obtain rfl : stored = present := Option.some.inj (found_stored.symm.trans found)
    exact {
      kept := rewritten.kept.of_machineStatusChange (.changed found)
      serverBindings := rewritten.serverBindings
      others := fun key other =>
        (Dict.get?_insert_of_ne other _ _).trans (rewritten.others key other)
      own := ⟨_, Dict.get?_insert_self _ _ _, own⟩ }

theorem commitMachine_rewritten (kept : store.WellKept)
    (found : store.metalMachines.get? machine.key = some machine)
    (stays : machine.isDeleting = false) (key_eq : copy.key = machine.key)
    (version_eq : copy.metadata.resourceVersion = machine.metadata.resourceVersion) :
    (commitMachine machine copy).Secures alone
      (fun _ later => Rewritten machine copy.spec.serverRef store later) store := by
  have own : ∀ now, store = now → now.metalMachines.get? machine.key = some machine := by
    rintro now rfl
    exact found
  refine commitMachine_unrivalled_secures own stays key_eq version_eq ?_ ?_
  · intro same
    refine commitMachineStatus_rewritten key_eq ⟨kept, rfl, fun _ _ => rfl, machine, found, ?_⟩
    have same_spec := (MetalMachine.bodyChanged_eq_false_iff.1 same).2
    exact ⟨congrArg MetalMachineSpec.serverRef same_spec, rfl, rfl⟩
  · rintro now _ rfl
    have kept_after := kept.withMachine (store.updatedMachine machine copy) rfl rfl
    refine ⟨⟨trivial, trivial⟩, commitMachineStatus_rewritten key_eq ⟨kept_after, rfl, ?_, ?_⟩⟩
    · exact fun key other => Dict.get?_insert_of_ne other _ _
    · exact ⟨_, Dict.get?_insert_self _ _ _, rfl, rfl, rfl⟩

theorem commitMachineStatus_of_eq (same : machine.status = copy.status) :
    commitMachineStatus machine copy = pure (.ok ()) := by
  unfold commitMachineStatus
  rw [if_pos same]

theorem commitMachine_self (machine : MetalMachine) :
    commitMachine machine machine = pure (.ok ()) := by
  have unchanged : machine.bodyChanged machine = false := by simp [MetalMachine.bodyChanged]
  unfold commitMachine
  rw [unchanged, commitMachineStatus_of_eq rfl]
  rfl

theorem commitMachine_dismissed (kept : store.WellKept)
    (found : store.metalMachines.get? machine.key = some machine)
    (deleting : machine.isDeleting = true) (named : machine.metadata.name.isSome = true) :
    (commitMachine machine machine.released).Secures alone
      (fun _ later => Dismissed machine.key store later) store := by
  have same_status : machine.status = machine.released.status := rfl
  have own : ∀ stored, store.metalMachines.get? machine.key = some stored →
      stored.isDeleting = true ∧ stored.metadata.name.isSome = true := by
    intro stored found_stored
    obtain rfl : machine = stored := Option.some.inj (found.symm.trans found_stored)
    exact ⟨deleting, named⟩
  have unchanged : Dismissed machine.key store store := ⟨kept, rfl, fun _ _ => rfl, own⟩
  refine commitMachine_secures ?_ ?_ ?_ ?_ ?_
  · intro _
    rw [commitMachineStatus_of_eq same_status]
    rintro later _ rfl
    exact unchanged
  · rintro now _ rfl _ later _ rfl _
    exact unchanged
  · rintro now _ rfl _ _ _ later _ rfl _
    exact unchanged
  · rintro now _ rfl stored found_stored _ _
    rw [commitMachineStatus_of_eq same_status]
    refine ⟨⟨trivial, trivial⟩, ?_⟩
    rintro later _ rfl
    refine ⟨kept.withoutMachine machine.key, rfl, ?_, ?_⟩
    · exact fun other different => Dict.get?_erase_of_ne different _
    · intro later found_later
      exact absurd rfl (Dict.get?_erase_eq_some.1 found_later).1
  · rintro now _ rfl stored found_stored current remains
    rw [commitMachineStatus_of_eq same_status]
    refine ⟨⟨trivial, trivial⟩, ?_⟩
    rintro later _ rfl
    refine ⟨kept.of_machineChange (.written found_stored current remains), rfl, ?_, ?_⟩
    · exact fun other different => Dict.get?_insert_of_ne different _ _
    · intro later found_later
      rcases Dict.get?_insert_eq_some.1 found_later with ⟨_, rfl⟩ | ⟨different, _⟩
      · exact own stored found_stored
      · exact absurd rfl different

/-! ## Passes that nothing interferes with -/

theorem releasing_alone (accord : store.Accord)
    (found : store.metalMachines.get? machine.key = some machine)
    (deleting : machine.isDeleting = true) :
    (withCommit machine release).Secures alone (fun _ later => LetGo machine.key store later)
      store := by
  unfold withCommit
  have deletes := deleteHeldBindings_alone machine fun _ _ found_binding =>
    accord.anyName found_binding
  refine Pass.secures_bind.2 ?_
  unfold release
  refine Pass.secures_bind.2 (deletes.weaken ?_)
  rintro result now _ ⟨relieved, none_held⟩
  have nothing_written : ∀ result : Except PassError Outcome,
      (finishMachine machine machine result).Secures alone
        (fun _ later => LetGo machine.key store later) now := by
    intro result
    refine finishMachine_alone ?_
    rw [commitMachine_self]
    rintro later _ rfl
    exact .relieved relieved
  match result with
  | .error _ => exact fun later _ same => same ▸ nothing_written _
  | .ok true => exact fun later _ same => same ▸ nothing_written _
  | .ok false =>
      rintro later _ rfl
      have kept : now.WellKept := relieved.wellKept accord.toWellKept
      have found_now : now.metalMachines.get? machine.key = some machine :=
        relieved.metalMachines ▸ found
      have named := accord.machine_named _ machine found
      have free : now.HoldsNothing machine.key := fun name binding found_binding =>
        none_held rfl name binding (relieved.old name binding found_binding)
      refine finishMachine_alone ((commitMachine_dismissed kept found_now deleting named).weaken ?_)
      exact fun _ last _ dismissed => .dismissed relieved free dismissed

theorem holdsAlone_grants (accord : store.Accord) (machine : MetalMachine) :
    Grants alone machine (HoldsAlone machine store) store where
  stable _ := alone_stable _
  found := by
    rintro _ _ rfl _ binding found_binding held
    exact ⟨accord.anyName found_binding, .inl ⟨rfl, binding, found_binding, held⟩⟩
  claimed := by
    rintro now _ rfl server serverClass free
    exact ⟨⟨trivial, trivial⟩, .inr ⟨free, serverClass, rfl⟩⟩

theorem machinePass_settles (accord : store.Accord) (key : ObjectKey) :
    (machinePass key).Secures alone (fun _ later => store.Settles later) store := by
  refine machinePass_secures ?_ ?_
  · rintro _ _ rfl machine found
    obtain rfl : machine.key = key := accord.machine_key key machine found
    cases stays : machine.isDeleting with
    | true =>
        unfold currentMachinePass
        rw [stays, if_pos rfl]
        split
        · exact (releasing_alone accord found stays).weaken fun _ _ _ letGo =>
            accord.settles_of_letGo found stays letGo
        · rintro later _ rfl
          exact .refl accord
    | false =>
        refine currentMachinePass_secures stays (holdsAlone_grants accord machine) ?_ ?_ machine.key
        · rintro later _ rfl
          exact .refl accord
        · intro copy later _ prepared
          obtain ⟨kept, same_machines⟩ := accord.of_prepared prepared
          refine (commitMachine_rewritten kept (same_machines ▸ found) stays prepared.key_eq
            prepared.resourceVersion_eq).weaken ?_
          rintro _ last _ rewritten end_ _ rfl
          exact accord.settles_of_prepared found prepared rewritten
  · rintro now _ rfl _ later _ rfl
    exact .refl accord

/-- A server was claimed for a machine that names it, and nothing else happened. -/
inductive Healed (server : String) (before : Store) : Store → Prop
  /-- A binding was created. -/
  | claimed {machine : MetalMachine}
      (found : before.metalMachines.get? machine.key = some machine)
      (names : machine.namedServer? = some server)
      (free : before.serverBindings.get? server = none) (serverClass : Option Reference) :
      Healed server before (before.withCreated (claim machine server serverClass))

theorem serverPass_alone (accord : store.Accord) (server : String) :
    (serverPass server).Secures alone (fun _ later => Healed server store later ∨ store = later)
      store := by
  have heals : Heals alone server (fun machine _ =>
      store.metalMachines.get? machine.key = some machine ∧ machine.namesServer server = true)
      (Healed server store) store := by
    refine ⟨fun _ _ _ _ _ known => known, alone_stable _, ?_, ?_⟩
    · rintro _ _ rfl key machine found names
      obtain rfl : machine.key = key := accord.machine_key key machine found
      exact ⟨found, names⟩
    · rintro _ _ rfl machine ⟨found, names⟩ _ free
      exact ⟨⟨trivial, trivial⟩,
        .claimed found (MetalMachine.namedServer?_of_namesServer names) free _⟩
  exact serverPass_secures heals

/-- A pass that nothing interferes with keeps bindings and references in accord. -/
theorem pass_settles (accord : store.Accord) (subject : Subject) :
    subject.pass.Secures alone (fun _ later => store.Settles later) store := by
  cases subject with
  | machine key => exact machinePass_settles accord key
  | server name =>
      refine (serverPass_alone accord name).weaken ?_
      rintro _ later _ (⟨found, names, free, serverClass⟩ | rfl)
      · exact accord.settles_withCreated found names free serverClass
      · exact .refl accord
  | binding name =>
      refine bindingPass_secures (alone_stable _) (.refl accord) ?_ name
      intro now _ settles name binding status found
      exact ⟨⟨trivial, trivial⟩, settles.trans (settles.accord.settles_withBinding found status)⟩
  | serverClass name =>
      refine classPass_secures (alone_stable _) ?_ name (.refl accord)
      intro now _ settles name change
      have leaves := leavesClaims_changeServerClass now name change
      exact ⟨⟨trivial, trivial⟩, settles.trans (settles.accord.settles_of_leavesClaims leaves)⟩

/-! ## Histories -/

/-- What can happen to a store between two moments at which no pass is under way. -/
inductive Move (before : Store) : Store → Prop
  /-- A pass runs to its end, with whatever its allocator remembers. -/
  | pass (subject : Subject) {world : Surroundings} (at_store : world.store = before) :
      Move before (subject.pass.run world).2.store
  /-- A machine that is not marked for deletion is put in under a key that is not used. -/
  | addMachine (machine : MetalMachine) (named : machine.metadata.name.isSome = true)
      (stays : machine.isDeleting = false)
      (unused : before.metalMachines.get? machine.key = none) :
      Move before (before.addMetalMachine machine)
  /-- A machine is marked for deletion. -/
  | mark {key : ObjectKey} {machine : MetalMachine} (time : Timestamp)
      (found : before.metalMachines.get? key = some machine) :
      Move before
        (before.addMetalMachine { machine with metadata.deletionTimestamp := some time })
  /-- Servers, classes, owner machines and clusters change in any way. -/
  | elsewhere {after : Store} (leaves : LeavesClaims before after) : Move before after

/-- Things happen to a store one after the other. -/
inductive History (first : Store) : Store → Prop
  /-- Nothing happened yet. -/
  | refl : History first first
  /-- One more thing happens. -/
  | step {before after : Store} (history : History first before) (move : Move before after) :
      History first after

/-- In the course of a history a pass made a machine name a server, and it still does. -/
inductive Given (first : Store) (key : ObjectKey) (reference : Reference) : Store → Prop
  /-- A pass writes the reference. -/
  | written {world : Surroundings} (subject : Subject) (history : History first world.store)
      (absent : world.store.reference? key ≠ some reference)
      (names : (subject.pass.run world).2.store.reference? key = some reference) :
      Given first key reference (subject.pass.run world).2.store
  /-- The reference stays. -/
  | kept {before after : Store} (given : Given first key reference before)
      (move : Move before after) (names : after.reference? key = some reference) :
      Given first key reference after

/-- A machine put in under its key, in place of one that named no other server. -/
theorem Store.Accord.addMetalMachine (accord : store.Accord) (machine : MetalMachine)
    (named : machine.metadata.name.isSome = true)
    (names : ∀ old reference, store.metalMachines.get? machine.key = some old →
      old.spec.serverRef = some reference → machine.spec.serverRef = some reference) :
    (store.addMetalMachine machine).Accord ∧
      ∀ key reference, key ≠ machine.key → (store.addMetalMachine machine).Lacks key reference →
        store.Lacks key reference := by
  obtain ⟨metalMachines, serverBindings, _⟩ := store.addMetalMachine_claims machine
  refine ⟨⟨accord.toWellKept.addMetalMachine machine, ?_, ?_, ?_⟩, ?_⟩
  · exact fun name binding found => accord.binding_named name binding (serverBindings ▸ found)
  · intro key present found
    rw [metalMachines, Dict.get?_insert_eq_some] at found
    rcases found with ⟨_, rfl⟩ | ⟨_, found⟩
    · exact named
    · exact accord.machine_named key present found
  · intro server binding found
    rw [serverBindings] at found
    obtain ⟨holder, reference, found_holder, named_holder, same⟩ :=
      accord.named server binding found
    rw [metalMachines]
    by_cases own : binding.holder = machine.key
    · rw [own] at found_holder ⊢
      exact ⟨_, reference, Dict.get?_insert_self _ _ _,
        names holder reference found_holder named_holder, same⟩
    · exact ⟨holder, reference, (Dict.get?_insert_of_ne own _ _).trans found_holder, named_holder,
        same⟩
  · rintro key reference other ⟨⟨present, found, stays, named_present⟩, without⟩
    rw [metalMachines, Dict.get?_insert_of_ne other] at found
    refine ⟨⟨present, found, stays, named_present⟩, ?_⟩
    rintro ⟨binding, found_binding, held⟩
    exact without ⟨binding, serverBindings ▸ found_binding, held⟩

/-- Nothing that happens between passes makes a machine lack its server that was there already. -/
theorem Move.accord {after : Store} (move : Move before after) (accord : before.Accord) :
    after.Accord ∧ ∀ key reference, after.Lacks key reference →
      before.Lacks key reference ∨ before.metalMachines.get? key = none := by
  cases move with
  | pass subject at_store =>
      subst at_store
      have settles : Settles _ _ := (pass_settles accord subject).run trivial
      exact ⟨settles.accord, fun key reference lacks => .inl (settles.lacked key reference lacks)⟩
  | addMachine machine named stays unused =>
      obtain ⟨accord_after, lacked⟩ := accord.addMetalMachine machine named
        fun old reference found => nomatch unused.symm.trans found
      refine ⟨accord_after, fun key reference lacks => ?_⟩
      by_cases own : key = machine.key
      · exact .inr (own ▸ unused)
      · exact .inl (lacked key reference own lacks)
  | @mark key machine time found =>
      have keyed := accord.machine_key key machine found
      have names : ∀ old reference, before.metalMachines.get? machine.key = some old →
          old.spec.serverRef = some reference → machine.spec.serverRef = some reference := by
        intro old reference found_old named_old
        rw [keyed] at found_old
        obtain rfl : machine = old := Option.some.inj (found.symm.trans found_old)
        exact named_old
      obtain ⟨accord_after, lacked⟩ := accord.addMetalMachine
        { machine with metadata.deletionTimestamp := some time }
        (accord.machine_named key machine found) names
      refine ⟨accord_after, fun other reference lacks => .inl ?_⟩
      refine lacked other reference (fun own => ?_) lacks
      obtain ⟨⟨present, found_present, stays, _⟩, _⟩ := lacks
      rw [(before.addMetalMachine_claims _).1, Dict.get?_insert_eq_some] at found_present
      rcases found_present with ⟨_, rfl⟩ | ⟨different, _⟩
      · exact nomatch stays
      · exact different own
  | elsewhere leaves =>
      have settles := accord.settles_of_leavesClaims leaves
      exact ⟨settles.accord, fun key reference lacks => .inl (settles.lacked key reference lacks)⟩

theorem History.accord {first last : Store} (history : History first last)
    (accord : first.Accord) : last.Accord := by
  induction history with
  | refl => exact accord
  | step _ move ih => exact (move.accord ih).1

theorem Given.names {first last : Store} {key : ObjectKey} {reference : Reference}
    (given : Given first key reference last) :
    History first last ∧ last.reference? key = some reference := by
  induction given with
  | written subject history _ names => exact ⟨history.step (.pass subject rfl), names⟩
  | kept _ move names ih => exact ⟨ih.1.step move, names⟩

theorem reference?_of_lacks {key : ObjectKey} {reference : Reference}
    (lacks : store.Lacks key reference) : store.reference? key = some reference := by
  obtain ⟨⟨machine, found, _, names⟩, _⟩ := lacks
  exact Option.bind_eq_some_iff.2 ⟨machine, found, names⟩

/-- A machine that was given its server by a pass does not lack it. -/
theorem Given.not_lacks {first last : Store} {key : ObjectKey} {reference : Reference}
    (given : Given first key reference last) (accord : first.Accord) :
    ¬last.Lacks key reference := by
  induction given with
  | written subject history absent names =>
      have settles : Settles _ _ := (pass_settles (history.accord accord) subject).run trivial
      exact fun lacks => absent (reference?_of_lacks (settles.lacked key reference lacks))
  | kept given move names ih =>
      obtain ⟨history, named⟩ := given.names
      intro lacks
      rcases (move.accord (history.accord accord)).2 key reference lacks with lacked | unused
      · exact ih lacked
      · simp [reference?, unused] at named

/-- Between passes that run one after the other every binding points at a machine that names its
server, every machine that stays and was given its server by a pass holds it, and no machine holds
two servers. -/
theorem bindings_match_references {first last : Store} (arises : first.Arises)
    (unclaimed : ∀ name, first.serverBindings.get? name = none)
    (named : ∀ key machine, first.metalMachines.get? key = some machine →
      machine.metadata.name.isSome = true)
    (history : History first last) :
    (∀ server binding, last.serverBindings.get? server = some binding →
      ∃ machine reference, last.metalMachines.get? binding.holder = some machine ∧
        machine.spec.serverRef = some reference ∧ reference.name = server) ∧
    (∀ key reference machine, Given first key reference last →
      last.metalMachines.get? key = some machine → machine.isDeleting = false →
        machine.spec.serverRef = some reference ∧ last.Holds key reference.name) ∧
    ∀ server other binding binding_too, last.serverBindings.get? server = some binding →
      last.serverBindings.get? other = some binding_too →
        binding.holder = binding_too.holder → server = other := by
  have accord : first.Accord :=
    ⟨arises.wellKept, fun name _ found => (nomatch (unclaimed name).symm.trans found), named,
      fun name _ found => (nomatch (unclaimed name).symm.trans found)⟩
  have accord_last := history.accord accord
  refine ⟨accord_last.named, ?_, fun _ _ _ _ => accord_last.unique⟩
  intro key reference machine given found stays
  obtain ⟨stored, found_stored, names⟩ := Option.bind_eq_some_iff.1 given.names.2
  obtain rfl : machine = stored := Option.some.inj (found.symm.trans found_stored)
  refine ⟨names, Classical.byContradiction fun without => ?_⟩
  exact given.not_lacks accord ⟨⟨machine, found, stays, names⟩, without⟩

/-- A store with a machine that names a class and one that names a server of that class. -/
def untouched : Store :=
  ((Laboratory.store ["s"]).addMetalMachine
    (Laboratory.machine "a" { serverClassRef := some (.ofName "pool") })).addMetalMachine
    (Laboratory.machine "b" { serverRef := some (.ofName "s") })

/-- The store after a pass over the first machine by an allocator whose index is wrong. -/
def allocated : Store :=
  ((Subject.machine (Laboratory.key "a")).pass.run (Laboratory.surroundings untouched
    { holders := Links.empty.link "t" (Laboratory.key "a") })).2.store

/-- The store after a pass over the second machine. -/
def contested : Store :=
  ((Subject.machine (Laboratory.key "b")).pass.run (Laboratory.surroundings allocated {})).2.store

/-- The machine that was given its server holds it, although another machine names it too. -/
theorem bindings_match_references_contested :
    untouched.Arises ∧ (∀ name, untouched.serverBindings.get? name = none) ∧
      (∀ key machine, untouched.metalMachines.get? key = some machine →
        machine.metadata.name.isSome = true) ∧
      History untouched contested ∧ Given untouched (Laboratory.key "a") (.ofName "s") contested ∧
      contested.reference? (Laboratory.key "b") = some (.ofName "s") ∧
      contested.Holds (Laboratory.key "a") "s" := by
  have arises : untouched.Arises := ((Laboratory.store_arises ["s"]).addMetalMachine
    (Laboratory.machine "a" { serverClassRef := some (.ofName "pool") })).addMetalMachine
    (Laboratory.machine "b" { serverRef := some (.ofName "s") })
  have only_named : untouched.metalMachines.entries.all (fun entry =>
      entry.2.metadata.name.isSome) = true := by decide +kernel
  have named : ∀ key machine, untouched.metalMachines.get? key = some machine →
      machine.metadata.name.isSome = true := fun key machine found =>
    List.all_eq_true.1 only_named _ (Dict.get?_eq_some_iff.1 found)
  have given : Given untouched (Laboratory.key "a") (.ofName "s") contested :=
    .kept (.written _ .refl (by decide +kernel) (by decide +kernel)) (.pass _ rfl)
      (by decide +kernel)
  have staying : (contested.metalMachines.get? (Laboratory.key "a")).any
      (fun machine => !machine.isDeleting) = true := by decide +kernel
  obtain ⟨machine, found, stays⟩ := (Option.any_eq_true _ _).1 staying
  have history := given.names.1
  have holds := ((bindings_match_references arises (fun _ => rfl) named history).2.1 _ _ machine
    given found (by simpa using stays)).2
  exact ⟨arises, fun _ => rfl, named, history, given, by decide +kernel, holds⟩

end BareMetal
