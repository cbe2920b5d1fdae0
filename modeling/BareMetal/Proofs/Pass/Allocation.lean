import BareMetal.Pass.Machine
import BareMetal.Proofs.Pass.Holding
import BareMetal.Proofs.Pass.Writes

/-!
# What allocation comes to

A machine comes to hold a server by finding a binding of its own or by creating one.  If either
shows that it holds the server, and the others cannot undo that, then a pass leaves the request of
the machine as it was or makes it name a server that the machine holds.
-/

namespace BareMetal

variable {α : Type} {terms : Terms Store} {Held : String → Store → Prop} {store : Store}

/-- A server that a class may give away: free and clean. -/
def Server.isClaimable (server : Server) : Bool := !server.isInUse && server.isClean

theorem Server.isClaimable_eq (server : Server) :
    server.isClaimable = !(server.isInUse || !server.isClean) := by
  rw [isClaimable, Bool.not_or, Bool.not_not]

/-! ## Claims -/

section

variable {machine : MetalMachine} {serverClass : Reference}
  {goal : Except PassError (Option String) → Store → Prop}

/-- The claimable candidates are tried in their order until one is free of a binding. -/
theorem claimFirst_secures (Bound : String → Store → Prop)
    (stable : ∀ server, terms.Stable (Bound server)) (candidates : List Server)
    (claimed : ∀ front server back, candidates = front ++ server :: back →
      server.isClaimable = true → ∀ now, terms.invariant now → terms.rely store now →
        (∀ earlier ∈ front, earlier.isClaimable = true → Bound earlier.anyName now) →
          now.serverBindings.get? server.anyName = none →
            let next := now.withCreated (claim machine server.anyName serverClass)
            terms.Permits now next ∧ ∀ later, terms.invariant later → terms.rely next later →
              goal (.ok (some server.anyName)) later)
    (taken : ∀ server ∈ candidates, server.isClaimable = true → ∀ now, terms.invariant now →
      terms.rely store now → ∀ present,
        now.serverBindings.get? server.anyName = some present → Bound server.anyName now)
    (refused : ∀ now, terms.invariant now → terms.rely store now → ∀ message,
      now.createFailure = some message → ∀ later, terms.invariant later → terms.rely now later →
        goal (.error (.store (.invalidRequest message))) later)
    (exhausted : ∀ later, terms.invariant later → terms.rely store later →
      (∀ server ∈ candidates, server.isClaimable = true → Bound server.anyName later) →
        goal (.ok none) later) :
    (claimFirst machine serverClass candidates).Secures terms goal store := by
  induction candidates generalizing store with
  | nil => exact fun later sound acted => exhausted later sound acted (by simp)
  | cons server rest ih =>
      -- The rest is tried in a store where the first candidate is bound or may not be claimed.
      have tries_rest : ∀ now, terms.invariant now → terms.rely store now →
          (server.isClaimable = true → Bound server.anyName now) →
            (claimFirst machine serverClass rest).Secures terms goal now := by
        intro now sound acted bound
        have still_bound : ∀ later, terms.invariant later → terms.rely now later →
            server.isClaimable = true → Bound server.anyName later :=
          fun later sound_later acted_later claimable =>
            stable _ sound_later acted_later (bound claimable)
        refine ih ?_ ?_ ?_ ?_
        · intro front other back split_rest claimable later sound_later acted_later front_bound
          refine claimed (server :: front) other back (by rw [split_rest, List.cons_append])
            claimable later sound_later (terms.rely_trans acted acted_later) ?_
          intro earlier member
          rcases List.mem_cons.1 member with rfl | member
          · exact still_bound later sound_later acted_later
          · exact front_bound earlier member
        · exact fun other member claimable later sound_later acted_later =>
            taken other (List.mem_cons_of_mem _ member) claimable later sound_later
              (terms.rely_trans acted acted_later)
        · exact fun later sound_later acted_later =>
            refused later sound_later (terms.rely_trans acted acted_later)
        · intro later sound_later acted_later rest_bound
          refine exhausted later sound_later (terms.rely_trans acted acted_later) ?_
          intro other member
          rcases List.mem_cons.1 member with rfl | member
          · exact still_bound later sound_later acted_later
          · exact rest_bound other member
      unfold claimFirst
      split
      · rename_i unfit
        refine Program.secures_of_forall fun now sound acted => tries_rest now sound acted ?_
        intro claimable
        rw [Server.isClaimable_eq, unfit] at claimable
        exact nomatch claimable
      · rename_i fit
        have claimable : server.isClaimable = true := by
          rw [Server.isClaimable_eq, Bool.eq_false_iff.2 fit, Bool.not_false]
        refine Attempt.secures_create_bind ?_ ?_ ?_
        · intro now sound acted free
          obtain ⟨permits, ends⟩ :=
            claimed [] server rest rfl claimable now sound acted (by simp) free
          exact ⟨permits, Attempt.secures_learn_bind <| Attempt.secures_count_bind <|
            Attempt.secures_pure.2 ends⟩
        · intro now sound acted present found what
          refine Attempt.secures_count_bind (tries_rest now sound acted fun _ => ?_)
          exact taken server List.mem_cons_self claimable now sound acted present found
        · exact fun now sound acted message fails =>
            Attempt.secures_throw.2 (refused now sound acted message fails)

end

/-- Finding a binding of the machine and creating one both show that it holds the server. -/
structure Grants (terms : Terms Store) (machine : MetalMachine) (Held : String → Store → Prop)
    (store : Store) : Prop where
  /-- The others cannot take the server away. -/
  stable : ∀ server, terms.Stable (Held server)
  /-- A binding of the machine shows that it holds the server. -/
  found : ∀ now, terms.invariant now → terms.rely store now → ∀ name binding,
    now.serverBindings.get? name = some binding → binding.isHeldBy machine.key = true →
      binding.anyName = name ∧ Held name now
  /-- A free server can be claimed. -/
  claimed : ∀ now, terms.invariant now → terms.rely store now → ∀ server serverClass,
    now.serverBindings.get? server = none →
      terms.Permits now (now.withCreated (claim machine server serverClass)) ∧
        Held server (now.withCreated (claim machine server serverClass))

section

variable {machine : MetalMachine}

theorem Grants.of_rely {later : Store} (grants : Grants terms machine Held store)
    (acted : terms.rely store later) : Grants terms machine Held later where
  stable := grants.stable
  found now sound acted_now := grants.found now sound (terms.rely_trans acted acted_now)
  claimed now sound acted_now := grants.claimed now sound (terms.rely_trans acted acted_now)

/-- A copy of a machine that makes the same claims is granted the same. -/
theorem Grants.copy {other : MetalMachine} (grants : Grants terms machine Held store)
    (same_key : other.key = machine.key) (same_claim : claim other = claim machine) :
    Grants terms other Held store where
  stable := grants.stable
  found := same_key ▸ grants.found
  claimed := same_claim ▸ grants.claimed

/-- What comes of the search for a server of a class. -/
def Obtains (terms : Terms Store) (Held : String → Store → Prop) (store : Store) :
    Except PassError (Option String) → Store → Prop
  | .ok (some server), later => Held server later
  | .ok none, later => terms.rely store later
  | .error _, later => terms.rely store later

theorem Obtains.of_rely {now later : Store} {result : Except PassError (Option String)}
    (obtains : Obtains terms Held now result later) (acted : terms.rely store now) :
    Obtains terms Held store result later := by
  match result, obtains with
  | .ok (some _), held => exact held
  | .ok none, unchanged => exact terms.rely_trans acted unchanged
  | .error _, unchanged => exact terms.rely_trans acted unchanged

theorem presentServers_secures (names : List String) :
    (presentServers names).Secures terms (fun _ later => terms.rely store later) store := by
  induction names generalizing store with
  | nil => exact fun later _ acted => acted
  | cons name rest ih =>
      unfold presentServers
      refine Attempt.secures_get_bind (fun _ => rfl) ?present ?missing
      case present =>
        intro now _ acted server _
        refine Attempt.secures_bind (ih.weaken ?_)
        intro result later _ acted_later
        cases result with
        | ok others =>
            exact fun last _ acted_last =>
              terms.rely_trans acted (terms.rely_trans acted_later acted_last)
        | error error => exact terms.rely_trans acted acted_later
      case missing =>
        exact fun now _ acted _ => ih.weaken fun _ _ _ acted_later =>
          terms.rely_trans acted acted_later

theorem claimFromClass_secures (grants : Grants terms machine Held store) (className : String) :
    (claimFromClass machine className).Secures terms (Obtains terms Held store) store := by
  unfold claimFromClass
  refine Attempt.secures_attemptCall_bind fun now sound acted => ?_
  refine ⟨sound, terms.keeps_refl now, fun serverClass _ => ?_, fun error _ => ?_⟩
  · refine Attempt.secures_bind ((presentServers_secures _).weaken ?_)
    intro result later sound_later acted_later
    have reached : terms.rely store later := terms.rely_trans acted acted_later
    cases result with
    | error error => exact reached
    | ok servers =>
        dsimp only [Attempt.Rest]
        split
        · exact fun last _ acted_last => terms.rely_trans reached acted_last
        · refine claimFirst_secures (fun _ _ => True) (fun _ _ _ _ _ _ => trivial) _
            ?_ (fun _ _ _ _ _ _ _ _ => trivial) ?_ ?_
          · intro _ server _ _ _ last sound_last acted_last _ free
            obtain ⟨permits, held⟩ := grants.claimed last sound_last
              (terms.rely_trans reached acted_last) server.anyName _ free
            exact ⟨permits, fun _ sound_end acted_end => grants.stable _ sound_end acted_end held⟩
          · exact fun last _ acted_last _ _ _ _ acted_end =>
              terms.rely_trans reached (terms.rely_trans acted_last acted_end)
          · exact fun last _ acted_last _ => terms.rely_trans reached acted_last
  · exact fun later _ acted_later => terms.rely_trans acted acted_later

/-- A machine that names a class ends up with a server that it holds, or nothing happened. -/
theorem serverFromClass_secures (grants : Grants terms machine Held store) :
    (serverFromClass machine).Secures terms (Obtains terms Held store) store := by
  unfold serverFromClass
  have shows : Shows terms machine.key (fun binding => Held binding.anyName) store :=
    fun now sound acted name binding found held => by
      obtain ⟨named, holds⟩ := grants.found now sound acted name binding found held
      exact named ▸ holds
  refine Attempt.secures_bind ((heldBindings_secures (fun _ => True)
    (fun binding => grants.stable binding.anyName) (fun _ _ _ => trivial) shows
    fun _ _ _ _ => trivial).weaken ?_)
  rintro _ now sound ⟨found, rfl, acted, holds, _⟩
  cases found with
  | cons binding others =>
      exact fun later sound_later acted_later => grants.stable binding.anyName sound_later
        acted_later (holds binding List.mem_cons_self)
  | nil =>
      dsimp only [Attempt.Rest]
      split
      · exact fun later _ acted_later => terms.rely_trans acted acted_later
      · exact (claimFromClass_secures (grants.of_rely acted) _).weaken
          fun _ _ _ obtains => obtains.of_rely acted

/-- What comes of making sure that a machine holds the server it names. -/
def Ensures (terms : Terms Store) (Held : Store → Prop) (store : Store) :
    Except PassError (Option WaitReason) → Store → Prop
  | .ok none, later => Held later
  | .ok (some _), later => Held later ∨ terms.rely store later
  | .error _, later => terms.rely store later

theorem claimNamed_secures (grants : Grants terms machine Held store) {server : String}
    (named : machine.namedServer? = some server) :
    (claimNamed machine server).Secures terms (Ensures terms (Held server) store) store := by
  unfold claimNamed
  have own : machine.ownClaim? = some (claim machine server machine.spec.serverClassRef) := by
    rw [MetalMachine.ownClaim?, named]
    rfl
  refine Attempt.secures_attemptCall_bind fun now sound acted => ?_
  refine ⟨sound, terms.keeps_refl now, fun found _ => ?_, fun error _ => ?_⟩
  · rw [own]
    dsimp only
    split
    · exact fun later _ acted_later => terms.rely_trans acted acted_later
    · refine Attempt.secures_create_bind ?_ ?_ ?_
      · intro later sound_later acted_later free
        obtain ⟨permits, held⟩ := grants.claimed later sound_later
          (terms.rely_trans acted acted_later) server _ free
        exact ⟨permits, Attempt.secures_learn_bind <| Attempt.secures_pure.2
          fun _ sound_last acted_last => .inl (grants.stable server sound_last acted_last held)⟩
      · exact fun later _ acted_later _ _ _ last _ acted_last =>
          .inr (terms.rely_trans acted (terms.rely_trans acted_later acted_last))
      · exact fun later _ acted_later _ _ last _ acted_last =>
          terms.rely_trans acted (terms.rely_trans acted_later acted_last)
  · exact fun later _ acted_later => terms.rely_trans acted acted_later

/-- A machine that names a server holds it in the end, or nothing happened. -/
theorem ensureNamed_secures (grants : Grants terms machine Held store) {server : String}
    (named : machine.namedServer? = some server) :
    (ensureNamed machine server).Secures terms (Ensures terms (Held server) store) store := by
  unfold ensureNamed
  refine Attempt.secures_get_bind (fun _ => rfl) ?present ?missing
  case present =>
    intro now sound acted binding found
    dsimp only
    split
    · rename_i held
      exact fun later sound_later acted_later => grants.stable server sound_later acted_later
        (grants.found now sound acted server binding found held).2
    · exact fun later _ acted_later => terms.rely_trans acted acted_later
  case missing =>
    intro now _ acted _
    refine (claimNamed_secures (grants.of_rely acted) named).weaken ?_
    intro result later _ ensures
    match result, ensures with
    | .ok none, held => exact held
    | .ok (some _), .inl held => exact .inl held
    | .ok (some _), .inr unchanged => exact .inr (terms.rely_trans acted unchanged)
    | .error _, unchanged => exact terms.rely_trans acted unchanged

end

/-! ## The machine to be written back -/

@[simp] theorem MetalMachine.claim_addFinalizer (machine : MetalMachine) :
    claim machine.addFinalizer = claim machine := by
  unfold addFinalizer
  split <;> rfl

@[simp] theorem MetalMachine.key_addFinalizer (machine : MetalMachine) :
    machine.addFinalizer.key = machine.key := by
  unfold addFinalizer
  split <;> rfl

@[simp] theorem MetalMachine.spec_addFinalizer (machine : MetalMachine) :
    machine.addFinalizer.spec = machine.spec := by
  unfold addFinalizer
  split <;> rfl

@[simp] theorem MetalMachine.status_addFinalizer (machine : MetalMachine) :
    machine.addFinalizer.status = machine.status := by
  unfold addFinalizer
  split <;> rfl

@[simp] theorem MetalMachine.claim_clearInvalid (machine : MetalMachine) :
    claim machine.clearInvalid = claim machine := by
  unfold clearInvalid
  split <;> rfl

@[simp] theorem MetalMachine.key_clearInvalid (machine : MetalMachine) :
    machine.clearInvalid.key = machine.key := by
  unfold clearInvalid
  split <;> rfl

@[simp] theorem MetalMachine.metadata_clearInvalid (machine : MetalMachine) :
    machine.clearInvalid.metadata = machine.metadata := by
  unfold clearInvalid
  split <;> rfl

@[simp] theorem MetalMachine.spec_clearInvalid (machine : MetalMachine) :
    machine.clearInvalid.spec = machine.spec := by
  unfold clearInvalid
  split <;> rfl

/-- A failure cleared says nothing about readiness. -/
theorem MetalMachine.ready_clearInvalid (machine : MetalMachine) :
    machine.clearInvalid.currentStatus.ready = machine.currentStatus.ready := by
  unfold clearInvalid
  split <;> rfl

/-- A machine as it is to be written back: it asks for what it asked before and is as ready as it
was, or it names a server that it holds. -/
inductive Prepared (terms : Terms Store) (Held : String → Store → Prop) (before : MetalMachine)
    (store : Store) (after : MetalMachine) (later : Store) : Prop
  /-- Neither the machine nor the store was brought further. -/
  | idle (metadata : after.metadata = before.addFinalizer.metadata)
      (serverRef : after.spec.serverRef = before.spec.serverRef)
      (serverClassRef : after.spec.serverClassRef = before.spec.serverClassRef)
      (ready : after.currentStatus.ready = before.currentStatus.ready)
      (unchanged : terms.rely store later)
  /-- The machine holds the server that it named before or names now. -/
  | holds (server : String) (metadata : after.metadata = before.addFinalizer.metadata)
      (named : after.namedServer? = some server)
      (serverRef : before.spec.serverRef = none ∨ after.spec.serverRef = before.spec.serverRef)
      (serverClassRef : after.spec.serverClassRef = before.spec.serverClassRef)
      (held : Held server later)

section

variable {machine : MetalMachine}

/-- A machine whose readiness was reported asks for what it asked before, and the report
succeeded. -/
structure Reported (machine : MetalMachine) (result : Except PassError Outcome)
    (after : MetalMachine) : Prop where
  /-- The pass did not fail. -/
  succeeds : ∃ outcome, result = .ok outcome
  /-- The metadata is the same. -/
  metadata : after.metadata = machine.metadata
  /-- It names the server that it named. -/
  serverRef : after.spec.serverRef = machine.spec.serverRef
  /-- It names the class that it named. -/
  serverClassRef : after.spec.serverClassRef = machine.spec.serverClassRef

/-- A machine that holds a server is written back with nothing changed but provider and status. -/
theorem reportReady_secures {Holds : Store → Prop} (stable : terms.Stable Holds)
    (holds : Holds store) (cluster : ObjectKey) (server : String) :
    (reportReady machine cluster server).Secures terms
      (fun ended later => Reported machine ended.1 ended.2 ∧ Holds later) store := by
  have ends : ∀ (result : Except PassError Outcome) (after : MetalMachine) (now : Store),
      terms.rely store now → Reported machine result after →
        (pure (result, after) : Pass _).Secures terms
          (fun ended later => Reported machine ended.1 ended.2 ∧ Holds later) now := by
    intro result after now acted reported
    refine Pass.secures_pure.2 fun later sound_later acted_later => ⟨reported, ?_⟩
    exact stable sound_later (terms.rely_trans acted acted_later) holds
  unfold reportReady
  refine Pass.secures_get_bind (fun _ => rfl) ?present ?missing
  case present =>
    intro now _ acted binding _
    dsimp only
    split
    · unfold stampNode
      refine Pass.secures_stampNode_bind fun reply => ?_
      cases reply with
      | ok _ => exact Pass.secures_now_bind fun _ => ends _ _ now acted ⟨⟨_, rfl⟩, rfl, rfl, rfl⟩
      | error _ =>
          exact Pass.secures_now_bind fun _ => ends _ _ now acted ⟨⟨_, rfl⟩, rfl, rfl, rfl⟩
    · exact ends _ _ now acted ⟨⟨_, rfl⟩, rfl, rfl, rfl⟩
  case missing => exact fun now _ acted _ => ends _ _ now acted ⟨⟨_, rfl⟩, rfl, rfl, rfl⟩

/-- A machine that names a server which it holds is prepared when its readiness was reported. -/
theorem reportReady_prepared {copy : MetalMachine} {server : String} {now : Store}
    (stable : terms.Stable (Held server)) (held : Held server now)
    (metadata : copy.metadata = machine.addFinalizer.metadata)
    (named : copy.namedServer? = some server)
    (serverRef : machine.spec.serverRef = none ∨ copy.spec.serverRef = machine.spec.serverRef)
    (serverClassRef : copy.spec.serverClassRef = machine.spec.serverClassRef)
    (cluster : ObjectKey) :
    (reportReady copy cluster server).Secures terms
      (fun ended later => Prepared terms Held machine store ended.2 later) now := by
  refine (reportReady_secures stable held cluster server).weaken ?_
  rintro ⟨_, after⟩ last _ ⟨reported, holds⟩
  refine .holds server (reported.metadata.trans metadata) ?_ ?_
    (reported.serverClassRef.trans serverClassRef) holds
  · rw [MetalMachine.namedServer?, reported.serverRef]
    exact named
  · rwa [reported.serverRef]

/-- What a pass writes back after an allocation, whether it succeeded or not. -/
theorem allocate_secures (grants : Grants terms machine Held store) (cluster : ObjectKey) :
    (allocate machine cluster).Secures terms
      (fun ended later => Prepared terms Held machine store ended.2 later) store := by
  -- The copy that the pass works on makes the same claims.
  have copy : Grants terms machine.addFinalizer.clearInvalid Held store :=
    grants.copy (by simp) (by simp)
  have copy_ready : machine.addFinalizer.clearInvalid.currentStatus.ready =
      machine.currentStatus.ready := by
    rw [MetalMachine.ready_clearInvalid, MetalMachine.currentStatus,
      MetalMachine.status_addFinalizer]
    rfl
  unfold allocate
  dsimp only
  split
  · rename_i no_server _
    refine Pass.secures_pure.2 fun later _ acted => .idle rfl ?_ ?_ ?_ acted
    · exact congrArg MetalMachineSpec.serverRef (MetalMachine.spec_addFinalizer machine)
    · exact congrArg MetalMachineSpec.serverClassRef (MetalMachine.spec_addFinalizer machine)
    · exact congrArg (fun status => (status.getD {}).ready)
        (MetalMachine.status_addFinalizer machine)
  · rename_i _ reference names_server
    have named : machine.addFinalizer.clearInvalid.namedServer? = some reference.name := by
      rw [MetalMachine.namedServer?, MetalMachine.spec_clearInvalid, names_server]
      rfl
    unfold allocateNamed
    refine Pass.secures_bind.2 ((ensureNamed_secures copy named).weaken ?_)
    intro result later sound ensures
    match result, ensures with
    | .error _, unchanged =>
        exact fun last _ acted => .idle (by simp) (by simp) (by simp) copy_ready
          (terms.rely_trans unchanged acted)
    | .ok (some _), .inl held =>
        exact fun last sound_last acted => .holds _ (by simp) named (.inr (by simp)) (by simp)
          (grants.stable _ sound_last acted held)
    | .ok (some _), .inr unchanged =>
        exact fun last _ acted => .idle (by simp) (by simp) (by simp) copy_ready
          (terms.rely_trans unchanged acted)
    | .ok none, held =>
        exact reportReady_prepared (grants.stable _) held (by simp) named (.inr (by simp))
          (by simp) cluster
  · rename_i _ no_server _
    have no_server : machine.spec.serverRef = none := by
      rw [← no_server, MetalMachine.spec_addFinalizer]
    unfold allocateFromClass
    refine Pass.secures_bind.2 ((serverFromClass_secures copy).weaken ?_)
    intro result later sound obtains
    match result, obtains with
    | .error _, unchanged =>
        exact fun last _ acted => .idle (by simp) (by simp) (by simp) copy_ready
          (terms.rely_trans unchanged acted)
    | .ok none, unchanged =>
        exact Pass.secures_count_bind fun last _ acted =>
          .idle (by simp) (by simp) (by simp) copy_ready
          (terms.rely_trans unchanged acted)
    | .ok (some server), held =>
        refine reportReady_prepared (grants.stable _) held ?_ ?_ (.inl no_server) ?_ cluster
        · exact MetalMachine.metadata_clearInvalid _
        · rfl
        · change machine.addFinalizer.clearInvalid.spec.serverClassRef = _
          simp

end

end BareMetal
