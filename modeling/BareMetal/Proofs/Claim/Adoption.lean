import BareMetal.Proofs.Claim.Recovering

/-!
# How a pass adopts the server of its machine

A pass over a machine that holds a server finds the binding, whatever the index says, and makes the
machine name the server; a pass over a machine without one may claim it.  Passes over other objects
keep to the terms of the machine.
-/

namespace BareMetal

open Store

variable {store : Store} {key other : ObjectKey} {machine copy : MetalMachine} {server : String}

/-! ## Passes over other objects -/

theorem bindingPass_recovering (name : String) (store : Store) :
    (bindingPass name).Secures (recovering key (.binding name)) (fun _ _ => True) store := by
  refine bindingPass_secures (fun _ _ _ => trivial) trivial ?_ name
  exact fun now sound _ name binding status found => ⟨sound.withBinding found status, trivial⟩

theorem classPass_recovering (name : String) (store : Store) :
    (classPass name).Secures (recovering key (.serverClass name)) (fun _ _ => True) store := by
  refine classPass_secures (fun _ _ _ => trivial) ?_ name trivial
  intro now sound _ name change
  have leaves := leavesClaims_changeServerClass now name change
  have same := congrArg (·.get? key) leaves.metalMachines
  exact ⟨⟨sound.of_leavesClaims leaves,
    .of_serverBindings leaves.serverBindings fun _ => reference?_congr same⟩, trivial⟩

/-- A pass over a server claims it for other machines only, since the machine holds the server that
it names. -/
theorem serverPass_recovering (server : String) (store : Store) :
    (serverPass server).Secures (recovering key (.server server)) (fun _ _ => True) store := by
  have heals : Heals (recovering key (.server server)) server
      (fun machine store => machine.claimant = key → store.Holds key server) (fun _ => True)
        store := by
    refine ⟨?_, fun _ _ _ => trivial, ?_, ?_⟩
    · exact fun _ _ _ _ respects known own => respects.holds key (.inl rfl) server (known own)
    · intro now sound _ some_key machine found names own
      obtain rfl : some_key = key := sound.claimant some_key machine found own
      obtain rfl : machine.key = some_key := sound.machine_key _ machine found
      exact (sound.of_get? found).1.backed server (MetalMachine.namedServer?_of_namesServer names)
    · intro now sound _ machine known _ free
      have elsewhere : Subject.server server ≠ .machine key := nofun
      refine ⟨sound.creates (fun _ own => ?_) (fun own_pass => absurd own_pass elsewhere) free _,
        trivial⟩
      obtain ⟨binding, found, _⟩ := known own
      exact nomatch free.symm.trans found
  exact (serverPass_secures heals).weaken fun _ _ _ _ => trivial

section

variable (differs : copy.key ≠ key)

include differs

theorem reference?_withMachine_other (machine : MetalMachine) :
    (store.withMachine copy.key machine).reference? key = store.reference? key :=
  reference?_congr (Dict.get?_insert_of_ne differs.symm _ _)

theorem commitMachineStatus_other (subject : Subject) :
    (commitMachineStatus machine copy).Secures (recovering key subject) (fun _ _ => True)
      store := by
  refine commitMachineStatus_secures (fun _ _ _ _ => trivial) (fun _ _ _ _ _ _ _ _ => trivial) ?_
  intro now sound _ present found _
  exact ⟨sound.withMachine found (sound.machine_key _ present found) rfl rfl
    (fun same => absurd same differs) fun _ => reference?_withMachine_other differs _,
      fun _ _ _ => trivial⟩

/-- Another machine may be written back in any way. -/
theorem commitMachine_other (subject : Subject) :
    (commitMachine machine copy).Secures (recovering key subject) (fun _ _ => True) store := by
  refine commitMachine_secures ?unchanged ?gone ?stale ?removed ?written
  case unchanged => exact fun _ => commitMachineStatus_other differs subject
  case gone => exact fun _ _ _ _ _ _ _ _ => trivial
  case stale => exact fun _ _ _ _ _ _ _ _ _ _ => trivial
  case removed =>
    exact fun now sound _ _ _ _ _ =>
      ⟨sound.withoutMachine differs, commitMachineStatus_other differs subject⟩
  case written =>
    intro now sound _ stored found _ _
    have keyed : stored.key = copy.key := sound.machine_key _ stored found
    exact ⟨sound.withMachine found keyed rfl rfl (fun same => absurd same differs)
      fun _ => reference?_withMachine_other differs _, commitMachineStatus_other differs subject⟩

end

theorem finishMachine_other (differs : copy.key ≠ key) (subject : Subject)
    (result : Except PassError Outcome) :
    (finishMachine machine copy result).Secures (recovering key subject) (fun _ _ => True)
      store := by
  unfold finishMachine
  exact Pass.secures_bind.2 ((commitMachine_other differs subject).weaken
    fun _ _ _ _ _ _ _ => trivial)

/-! ## Releases of other machines -/

/-- Bindings are deleted one after the other, each as long as the machine holds the server. -/
theorem deleteBindings_recovering (differs : other ≠ key) {names : List String}
    (ascending : names.Pairwise (· < ·)) (held : ∀ name ∈ names, store.Holds other name) :
    (deleteBindings names).Secures (recovering key (.machine other)) (fun _ _ => True) store := by
  induction names generalizing store with
  | nil => exact fun _ _ _ => trivial
  | cons name rest ih =>
      obtain ⟨before_rest, rest_ascending⟩ := List.pairwise_cons.1 ascending
      unfold deleteBindings
      refine Attempt.secures_attemptCall_bind fun now sound respects => ?_
      have held_now : ∀ present ∈ name :: rest, now.Holds other present :=
        fun present member => respects.holds other (.inr rfl) present (held present member)
      obtain ⟨sound_after, honours⟩ := sound.deletes differs (held_now name List.mem_cons_self)
      refine ⟨sound_after, honours, fun _ _ => ?_, fun _ failed => nomatch failed⟩
      refine Attempt.secures_learn_bind (ih rest_ascending fun later member => ?_)
      refine holds_deleteServerBinding_iff.2 ⟨held_now later (List.mem_cons_of_mem _ member), ?_⟩
      rintro rfl
      exact Std.lt_irrefl (before_rest later member)

theorem heldNamedServer_recovering (machine : MetalMachine) (store : Store) :
    (heldNamedServer machine).Secures (recovering key (.machine machine.key))
      (fun result later => Respects key (.machine machine.key) store later ∧
        ∀ names, result = .ok names → ∀ name ∈ names, later.Holds machine.key name) store := by
  have trans := @(recovering key (.machine machine.key)).rely_trans
  unfold heldNamedServer
  split
  · intro later _ respects
    refine ⟨respects, ?_⟩
    rintro _ ⟨⟩ name member
    exact nomatch member
  · refine Attempt.secures_get_bind (fun _ => rfl) ?present ?missing
    case present =>
      intro now _ respects binding found later _ respects_later
      refine ⟨trans respects respects_later, ?_⟩
      rintro _ ⟨⟩ name member
      split at member
      · rename_i held
        obtain rfl := List.mem_singleton.1 member
        exact respects_later.holds _ (.inr rfl) _ ⟨binding, found, held⟩
      · exact nomatch member
    case missing =>
      intro now _ respects _ later _ respects_later
      refine ⟨trans respects respects_later, ?_⟩
      rintro _ ⟨⟩ name member
      exact nomatch member

/-- A release deletes what the machine holds. -/
theorem deleteHeldBindings_recovering (differs : machine.key ≠ key) :
    (deleteHeldBindings machine).Secures (recovering key (.machine machine.key))
      (fun _ _ => True) store := by
  have stable : ∀ name, (recovering key (.machine machine.key)).Stable
      (·.Holds machine.key name) :=
    fun name _ _ _ respects holds => respects.holds _ (.inr rfl) name holds
  have shows : Shows (recovering key (.machine machine.key)) machine.key
      (fun binding now => now.Holds machine.key binding.anyName) store := by
    intro now sound _ name binding found held
    rw [sound.anyName name binding found]
    exact ⟨binding, found, held⟩
  unfold deleteHeldBindings
  refine Attempt.secures_bind ((heldBindings_secures (fun _ => True) (fun binding =>
    stable binding.anyName) (fun _ _ _ => trivial) shows fun _ _ _ _ => trivial).weaken ?_)
  rintro _ now _ ⟨found, rfl, _, found_held, _⟩
  refine Attempt.secures_bind ((heldNamedServer_recovering machine now).weaken ?_)
  rintro result later sound ⟨respects, named_held⟩
  cases result with
  | error _ => trivial
  | ok named =>
      have all_held : ∀ name ∈ sortedNames (found.map ServerBinding.anyName ++ named),
          later.Holds machine.key name := by
        intro name member
        rcases List.mem_append.1 (mem_sortedNames.1 member) with member | member
        · obtain ⟨binding, among, rfl⟩ := List.mem_map.1 member
          exact stable _ sound respects (found_held binding among)
        · exact named_held named rfl name member
      refine Attempt.secures_bind ((deleteBindings_recovering differs (pairwise_sortedNames _)
        all_held).weaken ?_)
      intro result _ _ _
      cases result with
      | error _ => trivial
      | ok _ => exact fun _ _ _ => trivial

theorem release_recovering (differs : machine.key ≠ key) :
    (release machine).Secures (recovering key (.machine machine.key))
      (fun ended _ => ended.2.key = machine.key) store := by
  unfold release
  refine Pass.secures_bind.2 ((deleteHeldBindings_recovering differs).weaken ?_)
  intro result _ _ _
  match result with
  | .error _ | .ok true | .ok false => exact fun _ _ _ => rfl

/-- A pass over another machine claims for that machine, and releases what it holds. -/
theorem otherMachinePass_recovering (differs : other ≠ key) (store : Store) :
    (machinePass other).Secures (recovering key (.machine other)) (fun _ _ => True) store := by
  refine machinePass_secures ?_ fun _ _ _ _ _ _ _ => trivial
  intro now sound _ machine found
  obtain rfl : machine.key = other := sound.machine_key other machine found
  cases stays : machine.isDeleting with
  | true =>
      unfold currentMachinePass
      rw [stays, if_pos rfl]
      split
      · refine Pass.secures_bind.2 ((release_recovering differs).weaken ?_)
        intro ended _ _ key_eq
        exact finishMachine_other (key_eq ▸ differs) _ ended.1
      · exact fun _ _ _ => trivial
  | false =>
      have other_claimant : machine.claimant ≠ key := fun own =>
        differs (sound.claimant _ machine found own)
      have not_own : Subject.machine machine.key ≠ .machine key := fun same =>
        differs (Subject.machine.inj same)
      have grants : Grants (recovering key (.machine machine.key)) machine (fun _ _ => True)
          now := {
        stable := fun _ _ _ _ _ _ => trivial
        found := fun later sound_later _ name binding found_binding _ =>
          ⟨sound_later.anyName name binding found_binding, trivial⟩
        claimed := fun later sound_later _ server serverClass free =>
          ⟨sound_later.creates (fun _ => other_claimant) (fun own_pass => absurd own_pass not_own)
            free _, trivial⟩ }
      refine currentMachinePass_secures stays grants (fun _ _ _ => trivial) ?_ machine.key
      intro after later _ prepared
      exact (commitMachine_other (prepared.key_eq ▸ differs) _).weaken fun _ _ _ _ _ _ _ => trivial

/-! ## Passes over the machine -/

theorem commitMachineStatus_own {reference : Option Reference} (key_eq : copy.key = key)
    (refers : store.reference? key = reference) :
    (commitMachineStatus machine copy).Secures (recovering key (.machine key))
      (fun committed later => committed = .ok () ∧ later.reference? key = reference) store := by
  have stable : ∀ now, now.reference? key = reference → ∀ later,
      Respects key (.machine key) now later → later.reference? key = reference :=
    fun now refers_now later respects => (respects.reference rfl).trans refers_now
  refine commitMachineStatus_secures ?unchanged ?gone ?written
  case unchanged => exact fun later _ respects _ => ⟨rfl, stable store refers later respects⟩
  case gone =>
    intro now sound _ absent
    exact absurd (key_eq ▸ absent) sound.get?_ne_none
  case written =>
    intro now sound respects present found _
    rw [key_eq] at found ⊢
    obtain ⟨keeps, classed⟩ := sound.of_get? found
    have refers_now := stable store refers now respects
    have refers_next : (now.withMachine key
        (now.machineWithStatus present copy.currentStatus)).reference? key = reference :=
      (now.reference?_withMachine_self _).trans ((reference?_of_get? found).symm.trans refers_now)
    refine ⟨sound.withMachine found (sound.machine_key key present found) rfl rfl
      (fun _ => ⟨⟨keeps.named, keeps.stays, keeps.backed⟩, classed⟩)
      (fun rival => absurd rfl rival),
      fun later _ respects_later => ⟨rfl, stable _ refers_next later respects_later⟩⟩

/-- The machine is written back with a server that it holds, or it was written since it was read. -/
theorem commitMachine_own (key_eq : copy.key = key)
    (refers : store.reference? key = machine.spec.serverRef)
    (classed : copy.spec.serverClassRef.isSome = true)
    (backed : ∀ server, copy.namedServer? = some server → store.Holds key server) :
    (commitMachine machine copy).Secures (recovering key (.machine key)) (fun committed later =>
      (∃ what, committed = .error (.conflict what)) ∨
        committed = .ok () ∧ later.reference? key = copy.spec.serverRef) store := by
  have reports : ∀ now, now.reference? key = copy.spec.serverRef →
      (commitMachineStatus machine copy).Secures (recovering key (.machine key))
        (fun committed later => (∃ what, committed = .error (.conflict what)) ∨
          committed = .ok () ∧ later.reference? key = copy.spec.serverRef) now :=
    fun now refers_now => (commitMachineStatus_own key_eq refers_now).weaken fun _ _ _ => .inr
  refine commitMachine_secures ?unchanged ?gone ?stale ?removed ?written
  case unchanged =>
    intro same
    refine reports store (refers.trans ?_)
    rw [(MetalMachine.bodyChanged_eq_false_iff.1 same).2]
  case gone =>
    intro now sound _ absent
    exact absurd (key_eq ▸ absent) sound.get?_ne_none
  case stale => exact fun _ _ _ _ _ _ _ _ _ what => .inl ⟨what, rfl⟩
  case removed =>
    intro now sound _ stored found _ released
    rw [key_eq] at found
    have deleting : stored.isDeleting = true := (Bool.and_eq_true_iff.1 released).1
    exact nomatch (sound.of_get? found).1.stays.symm.trans deleting
  case written =>
    intro now sound respects stored found _ _
    rw [key_eq] at found ⊢
    have keeps := (sound.of_get? found).1
    have keyed : stored.key = key := sound.machine_key key stored found
    have backed_now : ∀ server, copy.namedServer? = some server → now.Holds stored.key server :=
      fun server names => keyed ▸ respects.holds key (.inl rfl) server (backed server names)
    exact ⟨sound.withMachine found keyed rfl rfl
      (fun _ => ⟨⟨keeps.named, keeps.stays, backed_now⟩, classed⟩) (fun rival => absurd rfl rival),
      reports _ (now.reference?_withMachine_self _)⟩

/-- A machine that holds no server claims one or is left as it is. -/
theorem currentMachinePass_claims (found : store.metalMachines.get? machine.key = some machine)
    (keeps : store.Keeps machine) (classed : machine.spec.serverClassRef.isSome = true)
    (free : store.HoldsNothing machine.key) : (currentMachinePass machine.key machine).Secures
      (recovering machine.key (.machine machine.key)) (fun _ _ => True) store := by
  have grants : Grants (recovering machine.key (.machine machine.key)) machine
      (fun server now => now.Holds machine.key server ∧
        now.reference? machine.key = machine.spec.serverRef) store := by
    refine ⟨?_, ?_, ?_⟩
    · rintro server now later _ respects ⟨holds, refers⟩
      exact ⟨respects.holds _ (.inl rfl) server holds, (respects.reference rfl).trans refers⟩
    · intro now sound respects name binding found_binding held
      refine ⟨sound.anyName name binding found_binding, ⟨binding, found_binding, held⟩, ?_⟩
      exact (respects.reference rfl).trans (reference?_of_get? found)
    · intro now sound respects server serverClass free_name
      have free_now : now.HoldsNothing machine.key := holdsNothing_iff.2 fun name holds =>
        holdsNothing_iff.1 free name (respects.gains rfl name holds)
      refine ⟨sound.creates (fun rival => absurd rfl rival) (fun _ => free_now) free_name _,
        holds_withCreated keeps.named server serverClass, ?_⟩
      exact (respects.reference rfl).trans (reference?_of_get? found)
  refine currentMachinePass_secures keeps.stays grants (fun _ _ _ => trivial) ?_ machine.key
  intro after later _ prepared
  have refers : later.reference? machine.key = machine.spec.serverRef := by
    cases prepared with
    | idle _ _ _ _ respects => exact (respects.reference rfl).trans (reference?_of_get? found)
    | holds _ _ _ _ _ held => exact held.2
  refine (commitMachine_own prepared.key_eq refers (prepared.serverClassRef ▸ classed)
    fun server names => ?_).weaken fun _ _ _ _ _ _ _ => trivial
  obtain ⟨reference, named, rfl⟩ := Option.map_eq_some_iff.1 names
  rcases prepared.backed named with before | held
  · have names_before : machine.namedServer? = some reference.name := by
      rw [MetalMachine.namedServer?, before, Option.map_some]
    exact absurd (keeps.backed _ names_before) (holdsNothing_iff.1 free _)
  · exact held.1

/-! ## Adoption -/

/-- How a pass ends over a machine that held a server when it started: in front of the gates, with a
write that was refused, or with the machine naming the server. -/
def Adopts (key : ObjectKey) (server : String) (result : Except PassError Outcome)
    (later : Store) : Prop :=
  Shut result ∨ (∃ what, result = .error (.store (.conflict what))) ∨
    ∃ reference, later.reference? key = some reference ∧ reference.name = server

section

variable (holds : store.Holds key server)

include holds

/-- Whatever the index gives, a look for the bindings of the machine finds that of its server. -/
theorem serverFromClass_adopts (key_eq : copy.key = key) :
    (serverFromClass copy).Secures (recovering key (.machine key)) (fun result later =>
      result = .ok (some server) ∧ Respects key (.machine key) store later) store := by
  have trans := @(recovering key (.machine key)).rely_trans
  have holds_now : ∀ now, Respects key (.machine key) store now → now.Holds key server :=
    fun now respects => respects.holds key (.inl rfl) server holds
  have shows : Shows (recovering key (.machine key)) key
      (fun binding _ => binding.anyName = server) store := by
    intro now sound respects name binding found held
    rw [sound.anyName name binding found]
    exact sound.single name server ⟨binding, found, held⟩ (holds_now now respects)
  unfold serverFromClass
  rw [key_eq]
  refine Attempt.secures_bind ((heldBindings_secures (fun _ => False) (fun _ _ _ _ _ known => known)
    (fun _ _ none_held => none_held) shows fun now _ respects free =>
      holdsNothing_iff.1 free server (holds_now now respects)).weaken ?_)
  rintro _ now _ ⟨found, rfl, respects, names, not_none⟩
  cases found with
  | nil => exact (not_none rfl).elim
  | cons binding others =>
      intro later _ respects_later
      exact ⟨by rw [names binding List.mem_cons_self], trans respects respects_later⟩

theorem ensureNamed_adopts (key_eq : copy.key = key) :
    (ensureNamed copy server).Secures (recovering key (.machine key)) (fun result later =>
      result = .ok none ∧ Respects key (.machine key) store later) store := by
  have trans := @(recovering key (.machine key)).rely_trans
  unfold ensureNamed
  refine Attempt.secures_get_bind (fun _ => rfl) ?present ?missing
  case present =>
    intro now _ respects binding found
    obtain ⟨own, found_own, held⟩ := respects.holds key (.inl rfl) server holds
    obtain rfl : binding = own := Option.some.inj (found.symm.trans found_own)
    dsimp only
    rw [key_eq, if_pos held]
    exact fun later _ respects_later => ⟨rfl, trans respects respects_later⟩
  case missing =>
    intro now _ respects absent
    obtain ⟨own, found_own, _⟩ := respects.holds key (.inl rfl) server holds
    exact nomatch absent.symm.trans found_own

end

/-- The copy of a machine that adopts its server names it, and the allocation succeeded. -/
structure Adopted (machine : MetalMachine) (server : String) (result : Except PassError Outcome)
    (after : MetalMachine) : Prop where
  /-- The pass did not fail. -/
  succeeds : ∃ outcome, result = .ok outcome
  /-- It has the key of the machine. -/
  key_eq : after.key = machine.key
  /-- It names the class that the machine named. -/
  serverClassRef : after.spec.serverClassRef = machine.spec.serverClassRef
  /-- It names the server. -/
  names : after.namedServer? = some server

theorem Adopted.of_reported {result : Except PassError Outcome} {after : MetalMachine}
    (reported : Reported copy result after) (key_eq : copy.key = machine.key)
    (serverClassRef : copy.spec.serverClassRef = machine.spec.serverClassRef)
    (names : copy.namedServer? = some server) : Adopted machine server result after where
  succeeds := reported.succeeds
  key_eq := (congrArg Metadata.key reported.metadata).trans key_eq
  serverClassRef := reported.serverClassRef.trans serverClassRef
  names := (congrArg (Option.map Reference.name) reported.serverRef).trans names

/-- An allocation for a machine that holds just one server makes the machine name it. -/
theorem allocate_adopts (holds : store.Holds machine.key server)
    (just : ∀ name, machine.namedServer? = some name → name = server)
    (classed : machine.spec.serverClassRef.isSome = true) (cluster : ObjectKey) :
    (allocate machine cluster).Secures (recovering machine.key (.machine machine.key))
      (fun ended later => Adopted machine server ended.1 ended.2 ∧
        Respects machine.key (.machine machine.key) store later) store := by
  have stable : (recovering machine.key (.machine machine.key)).Stable
      (Respects machine.key (.machine machine.key) store) :=
    fun _ respects_later respects =>
      (recovering machine.key (.machine machine.key)).rely_trans respects respects_later
  have key_eq : machine.addFinalizer.clearInvalid.key = machine.key := by simp
  unfold allocate
  dsimp only
  split
  · rename_i no_class
    rw [MetalMachine.spec_addFinalizer] at no_class
    exact nomatch no_class ▸ classed
  · rename_i _ reference names
    rw [MetalMachine.spec_addFinalizer] at names
    obtain rfl : reference.name = server :=
      just reference.name (by rw [MetalMachine.namedServer?, names, Option.map_some])
    unfold allocateNamed
    refine Pass.secures_bind.2 ((ensureNamed_adopts holds key_eq).weaken ?_)
    rintro _ now _ ⟨rfl, respects⟩
    refine (reportReady_secures stable respects cluster _).weaken fun ended later _ => ?_
    refine And.imp_left fun reported => .of_reported reported key_eq (by simp) ?_
    rw [MetalMachine.namedServer?, MetalMachine.spec_clearInvalid, MetalMachine.spec_addFinalizer,
      names, Option.map_some]
  · unfold allocateFromClass
    refine Pass.secures_bind.2 ((serverFromClass_adopts holds key_eq).weaken ?_)
    rintro _ now _ ⟨rfl, respects⟩
    refine (reportReady_secures stable respects cluster _).weaken fun ended later _ => ?_
    refine And.imp_left fun reported => .of_reported reported key_eq ?_ rfl
    change machine.addFinalizer.clearInvalid.spec.serverClassRef = _
    simp

/-- A pass over a machine that holds a server adopts it. -/
theorem currentMachinePass_adopts (sound : store.Recovering machine.key)
    (found : store.metalMachines.get? machine.key = some machine) (keeps : store.Keeps machine)
    (classed : machine.spec.serverClassRef.isSome = true)
    (holds : store.Holds machine.key server) : (currentMachinePass machine.key machine).Secures
      (recovering machine.key (.machine machine.key)) (Adopts machine.key server) store := by
  unfold currentMachinePass
  rw [keeps.stays]
  refine Pass.secures_bind.2 ((gates_secures machine.key machine).weaken ?_)
  rintro result now _ ⟨shut, respects⟩
  match result, shut with
  | .error _, shut => exact fun _ _ _ => .inl shut
  | .ok (.closed _), shut => exact fun _ _ _ => .inl shut
  | .ok (.passed cluster), _ =>
      have holds_now := respects.holds _ (.inl rfl) server holds
      have just : ∀ name, machine.namedServer? = some name → name = server :=
        fun name names => sound.single name server (keeps.backed name names) holds
      have refers : ∀ later, Respects machine.key (.machine machine.key) now later →
          later.reference? machine.key = machine.spec.serverRef := fun later respects_later =>
        (respects_later.reference rfl).trans
          ((respects.reference rfl).trans (reference?_of_get? found))
      dsimp only [Bool.false_eq_true, if_false]
      unfold withCommit
      refine Pass.secures_bind.2 ((allocate_adopts holds_now just classed cluster).weaken ?_)
      rintro ⟨_, after⟩ later _ ⟨⟨⟨outcome, rfl⟩, key_eq, serverClassRef, names⟩, respects_later⟩
      have backed : ∀ name, after.namedServer? = some name →
          later.Holds machine.key name := by
        intro name names_too
        obtain rfl : server = name := Option.some.inj (names.symm.trans names_too)
        exact respects_later.holds _ (.inl rfl) server holds_now
      obtain ⟨reference, named, same⟩ := Option.map_eq_some_iff.1 names
      unfold finishMachine
      refine Pass.secures_bind.2 ((commitMachine_own key_eq (refers later respects_later)
        (serverClassRef ▸ classed) backed).weaken ?_)
      rintro committed last _ (⟨what, rfl⟩ | ⟨rfl, names_last⟩)
      · exact fun _ _ _ => .inr (.inl ⟨what, rfl⟩)
      · exact fun _ _ respects_last => .inr (.inr ⟨reference,
          (respects_last.reference rfl).trans (names_last.trans named), same⟩)

/-! ## Passes over anything -/

theorem machinePass_adopts (holds : store.Holds key server) :
    (machinePass key).Secures (recovering key (.machine key)) (Adopts key server) store := by
  refine machinePass_secures ?present ?absent
  case present =>
    intro now sound respects machine found
    obtain rfl : machine.key = key := sound.machine_key key machine found
    obtain ⟨keeps, classed⟩ := sound.of_get? found
    exact currentMachinePass_adopts sound found keeps classed
      (respects.holds _ (.inl rfl) server holds)
  case absent =>
    intro now sound _ absent
    exact absurd absent sound.get?_ne_none

theorem machinePass_recovering (key : ObjectKey) (store : Store) :
    (machinePass key).Secures (recovering key (.machine key)) (fun _ _ => True) store := by
  refine machinePass_secures ?_ fun _ _ _ _ _ _ _ => trivial
  intro now sound respects machine found
  obtain rfl : machine.key = key := sound.machine_key key machine found
  obtain ⟨keeps, classed⟩ := sound.of_get? found
  by_cases held : ∃ server, now.Holds machine.key server
  · obtain ⟨server, holds⟩ := held
    exact (currentMachinePass_adopts sound found keeps classed holds).weaken fun _ _ _ _ => trivial
  · exact currentMachinePass_claims found keeps classed
      (holdsNothing_iff.2 fun server holds => held ⟨server, holds⟩)

/-- Every pass may be started at any time. -/
theorem pass_recovering (key : ObjectKey) (subject : Subject) (store : Store) :
    subject.pass.Secures (recovering key subject) (fun _ _ => True) store := by
  cases subject with
  | machine other =>
      by_cases own : other = key
      · exact own ▸ machinePass_recovering other store
      · exact otherMachinePass_recovering own store
  | binding name => exact bindingPass_recovering name store
  | server name => exact serverPass_recovering name store
  | serverClass name => exact classPass_recovering name store

end BareMetal
