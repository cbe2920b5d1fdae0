import BareMetal.Proofs.Claim.Evolution
import BareMetal.Proofs.Pass.Machine
import BareMetal.Proofs.Qualification

/-!
# A pass in a race for the servers of a class

Several machines want a server of the same class, each with one pass.  The names that are bound are
at all times the first of the eligible ones, so a pass ends with a server that its machine holds, or
with all eligible names bound.
-/

namespace BareMetal

open Store

/-! ## The terms of the race -/

namespace Store

/-- There is a binding of a name. -/
def Bound (store : Store) (name : String) : Prop :=
  ∃ binding, store.serverBindings.get? name = some binding

/-- A machine holds one server and no other. -/
def HoldsJust (store : Store) (machine : ObjectKey) (server : String) : Prop :=
  store.Holds machine server ∧ ∀ other, store.Holds machine other → other = server

/-- What belongs to a machine passes all gates in front of allocation. -/
def Admits (store : Store) (machine : MetalMachine) : Prop :=
  ∃ ownerKey owner name cluster, machine.ownerKey? = some ownerKey ∧
    store.machines.get? ownerKey = some owner ∧ owner.clusterName? = some name ∧
      store.clusters.get? ⟨machine.key.space, name⟩ = some cluster ∧
        cluster.spec.paused = false ∧ cluster.isInfrastructureReady = true ∧
          owner.bootstrapSecret?.isSome = true

/-- What holds at all times of a race that began with a store. -/
structure Racing (start : Store) (keys : List ObjectKey) (eligible : List String)
    (store : Store) : Prop extends store.WellKept where
  /-- Servers are as they were. -/
  servers : store.servers = start.servers
  /-- Classes are as they were. -/
  serverClasses : store.serverClasses = start.serverClasses
  /-- Owner machines are as they were. -/
  machines : store.machines = start.machines
  /-- Clusters are as they were. -/
  clusters : store.clusters = start.clusters
  /-- Creating bindings is not refused. -/
  creates : store.createFailure = none
  /-- No binding is ready. -/
  unready : ∀ name binding, store.serverBindings.get? name = some binding → binding.status = none
  /-- Every binding is held by a machine of the race. -/
  held : ∀ name binding, store.serverBindings.get? name = some binding →
    ∃ key ∈ keys, binding.isHeldBy key = true
  /-- Bound names are eligible, and all eligible names before them are bound. -/
  front : ∀ name, store.Bound name →
    name ∈ eligible ∧ ∀ earlier ∈ eligible, earlier < name → store.Bound earlier

/-- What the other passes leave to the pass over a machine. -/
structure Yields (machine : ObjectKey) (before after : Store) : Prop where
  /-- The machine is as it was. -/
  own : after.metalMachines.get? machine = before.metalMachines.get? machine
  /-- Bindings stay. -/
  grows : ∀ name binding, before.serverBindings.get? name = some binding →
    after.serverBindings.get? name = some binding
  /-- No new binding is held by the machine. -/
  others : ∀ name binding, after.serverBindings.get? name = some binding →
    before.serverBindings.get? name = some binding ∨ binding.isHeldBy machine = false

/-- What the pass over a machine may do. -/
structure Takes (machine : ObjectKey) (before after : Store) : Prop where
  /-- Other machines are as they were. -/
  others : ∀ other, other ≠ machine →
    after.metalMachines.get? other = before.metalMachines.get? other
  /-- Bindings stay. -/
  grows : ∀ name binding, before.serverBindings.get? name = some binding →
    after.serverBindings.get? name = some binding
  /-- New bindings are held by the machine. -/
  own : ∀ name binding, after.serverBindings.get? name = some binding →
    before.serverBindings.get? name = some binding ∨ binding.isHeldBy machine = true

theorem Takes.refl {machine : ObjectKey} (store : Store) : Takes machine store store :=
  ⟨fun _ _ => rfl, fun _ _ found => found, fun _ _ found => .inl found⟩

/-- What one pass takes it takes from no other. -/
theorem Takes.yields {machine other : ObjectKey} {before after : Store}
    (takes : Takes machine before after) (different : other ≠ machine) :
    Yields other before after where
  own := takes.others other different
  grows := takes.grows
  others name binding found := by
    refine (takes.own name binding found).imp id fun held => Bool.eq_false_iff.2 fun held_too => ?_
    exact different ((ServerBinding.isHeldBy_iff.1 held_too).symm.trans
      (ServerBinding.isHeldBy_iff.1 held))

section

variable {machine : ObjectKey} {server : String} {before after : Store}

theorem Bound.of_yields {name : String} (bound : before.Bound name)
    (yields : Yields machine before after) : after.Bound name := by
  obtain ⟨binding, found⟩ := bound
  exact ⟨binding, yields.grows name binding found⟩

/-- A machine holds what it held while the others act, and nothing else. -/
theorem holds_iff_of_yields (yields : Yields machine before after) :
    after.Holds machine server ↔ before.Holds machine server := by
  constructor
  · rintro ⟨binding, found, held⟩
    rcases yields.others server binding found with old | elsewhere
    · exact ⟨binding, old, held⟩
    · exact nomatch elsewhere.symm.trans held
  · rintro ⟨binding, found, held⟩
    exact ⟨binding, yields.grows server binding found, held⟩

theorem HoldsNothing.of_yields (free : before.HoldsNothing machine)
    (yields : Yields machine before after) : after.HoldsNothing machine :=
  holdsNothing_iff.2 fun name holds =>
    holdsNothing_iff.1 free name ((holds_iff_of_yields yields).1 holds)

theorem HoldsJust.of_yields (holds : before.HoldsJust machine server)
    (yields : Yields machine before after) : after.HoldsJust machine server :=
  ⟨(holds_iff_of_yields yields).2 holds.1, fun other holds_other =>
    holds.2 other ((holds_iff_of_yields yields).1 holds_other)⟩

end

end Store

/-- The terms of the pass over a machine in a race. -/
def racing (start : Store) (keys : List ObjectKey) (eligible : List String)
    (machine : ObjectKey) : Terms Store where
  invariant := Racing start keys eligible
  rely := Yields machine
  keeps := Takes machine
  rely_refl _ := ⟨rfl, fun _ _ found => found, fun _ _ found => .inl found⟩
  rely_trans front back :=
    ⟨back.own.trans front.own,
      fun name binding found => back.grows name binding (front.grows name binding found),
      fun name binding found => (back.others name binding found).elim
        (front.others name binding) .inr⟩
  keeps_refl := Takes.refl

/-! ## Writes in a race -/

section

variable {start store : Store} {keys : List ObjectKey} {eligible : List String}
  {machine : MetalMachine}

/-- A claim of the first eligible name that is not bound. -/
theorem Store.Racing.withCreated (racing : Racing start keys eligible store)
    (entered : machine.key ∈ keys) (named : machine.metadata.name.isSome = true)
    {server : String} (offered : server ∈ eligible)
    (first : ∀ earlier ∈ eligible, earlier < server → store.Bound earlier)
    (free : store.serverBindings.get? server = none) (serverClass : Option Reference) :
    Racing start keys eligible (store.withCreated (claim machine server serverClass)) ∧
      Takes machine.key store (store.withCreated (claim machine server serverClass)) := by
  have holder := holder_claim named server serverClass
  have stays : ∀ name binding, store.serverBindings.get? name = some binding →
      (store.withCreated (claim machine server serverClass)).serverBindings.get? name =
        some binding := by
    intro name binding found
    have other : name ≠ server := by
      rintro rfl
      exact nomatch free.symm.trans found
    exact (Dict.get?_insert_of_ne other _ _).trans found
  refine ⟨{ racing with toWellKept := racing.toWellKept.withCreated _, unready := ?_, held := ?_,
                        front := ?_ }, fun _ _ => rfl, stays, ?_⟩
  · intro name binding found
    rcases Dict.get?_insert_eq_some.1 found with ⟨_, rfl⟩ | ⟨_, found⟩
    · rfl
    · exact racing.unready name binding found
  · intro name binding found
    rcases Dict.get?_insert_eq_some.1 found with ⟨_, rfl⟩ | ⟨_, found⟩
    · exact ⟨machine.key, entered, ServerBinding.isHeldBy_iff.2 holder⟩
    · exact racing.held name binding found
  · rintro name ⟨binding, found⟩
    have still : ∀ other, store.Bound other →
        (store.withCreated (claim machine server serverClass)).Bound other :=
      fun other ⟨present, found_present⟩ => ⟨present, stays other present found_present⟩
    rcases Dict.get?_insert_eq_some.1 found with ⟨rfl, _⟩ | ⟨_, found⟩
    · exact ⟨offered, fun earlier member before => still earlier (first earlier member before)⟩
    · obtain ⟨among, all_before⟩ := racing.front name ⟨binding, found⟩
      exact ⟨among, fun earlier member before => still earlier (all_before earlier member before)⟩
  · intro name binding found
    rcases Dict.get?_insert_eq_some.1 found with ⟨_, rfl⟩ | ⟨_, found⟩
    · exact .inr (ServerBinding.isHeldBy_iff.2 holder)
    · exact .inl found

/-- A machine written back under its key. -/
theorem Store.Racing.withMachine (racing : Racing start keys eligible store)
    (machine : MetalMachine) {key : ObjectKey} (keyed : machine.key = key)
    (stamped : machine.metadata.resourceVersion = some store.nextVersion) :
    Racing start keys eligible (store.withMachine key machine) ∧
      Takes key store (store.withMachine key machine) :=
  ⟨{ racing with toWellKept := racing.toWellKept.withMachine machine keyed stamped },
    fun _ other => Dict.get?_insert_of_ne other _ _, fun _ _ found => found,
    fun _ _ found => .inl found⟩

end

/-! ## Claiming in a race -/

/-- A machine is as it was read, and holds nothing yet. -/
structure Waits (machine : MetalMachine) (store : Store) : Prop where
  /-- It was not written since. -/
  own : store.metalMachines.get? machine.key = some machine
  /-- No binding is held by it. -/
  free : store.HoldsNothing machine.key

theorem Waits.of_yields {machine : MetalMachine} {before after : Store}
    (waits : Waits machine before) (yields : Yields machine.key before after) :
    Waits machine after :=
  ⟨yields.own.trans waits.own, waits.free.of_yields yields⟩

/-- How the search for a server ends: with one that the machine holds, or with all names bound. -/
inductive Claimed (machine : MetalMachine) (eligible : List String) :
    Except PassError (Option String) → Store → Prop
  /-- The machine is as it was read, and holds just one server. -/
  | claimed {store : Store} {server : String}
      (own : store.metalMachines.get? machine.key = some machine)
      (holds : store.HoldsJust machine.key server) :
      Claimed machine eligible (.ok (some server)) store
  /-- The machine is as it was read and holds nothing, and all eligible names are bound. -/
  | exhausted {store : Store} (waits : Waits machine store)
      (bound : ∀ name ∈ eligible, store.Bound name) : Claimed machine eligible (.ok none) store

/-- A machine that held nothing holds just what it claims. -/
theorem Store.HoldsNothing.withCreated {machine : MetalMachine} {store : Store}
    (free : store.HoldsNothing machine.key) (named : machine.metadata.name.isSome = true)
    (server : String) (serverClass : Option Reference) :
    (store.withCreated (claim machine server serverClass)).HoldsJust machine.key server := by
  refine ⟨holds_withCreated named server serverClass, ?_⟩
  rintro other ⟨binding, found, held⟩
  rcases Dict.get?_insert_eq_some.1 found with ⟨same, _⟩ | ⟨_, found⟩
  · exact same
  · exact nomatch (free other binding found).symm.trans held

section

variable {start store : Store} {keys : List ObjectKey} {eligible : List String}
  {machine copy : MetalMachine}

/-- A machine that waits claims the first candidate that is free, or finds all of them bound. -/
theorem claimFirst_racing {candidates : List Server} (offers : Offers candidates eligible)
    (entered : machine.key ∈ keys) (same_key : copy.key = machine.key)
    (named : copy.metadata.name.isSome = true) (waits : Waits machine store)
    (serverClass : Reference) :
    (claimFirst copy serverClass candidates).Secures (racing start keys eligible machine.key)
      (Claimed machine eligible) store := by
  refine claimFirst_secures (fun name now => now.Bound name)
    (fun _ _ _ _ acted bound => bound.of_yields acted) candidates ?claimed ?taken ?refused
    ?exhausted
  case claimed =>
    intro front server back splits claimable now sound acted front_bound free
    have offered : server.anyName ∈ eligible :=
      (offers.names _).2 ⟨server, by simp [splits], claimable, rfl⟩
    have first : ∀ earlier ∈ eligible, earlier < server.anyName → now.Bound earlier := by
      intro name member before
      obtain ⟨earlier, in_front, claimable, rfl⟩ := offers.earlier splits member before
      exact front_bound earlier in_front claimable
    obtain ⟨sound_after, takes⟩ :=
      sound.withCreated (same_key ▸ entered) named offered first free serverClass
    rw [same_key] at takes
    have holds := (same_key ▸ (waits.of_yields acted).free).withCreated named server.anyName
      serverClass
    rw [same_key] at holds
    refine ⟨⟨sound_after, takes⟩, fun later _ acted_later => ?_⟩
    exact .claimed (acted_later.own.trans (waits.of_yields acted).own)
      (holds.of_yields acted_later)
  case taken => exact fun server _ _ now _ _ present found => ⟨present, found⟩
  case refused => exact fun now sound _ message fails => nomatch sound.creates.symm.trans fails
  case exhausted =>
    intro later _ acted bound
    refine .exhausted (waits.of_yields acted) fun name member => ?_
    obtain ⟨server, among, claimable, rfl⟩ := (offers.names name).1 member
    exact bound server among claimable

/-- While servers are not touched, the servers of some names are those that were there at first. -/
theorem presentServers_racing {key : ObjectKey} (names : List String) :
    (presentServers names).Secures (racing start keys eligible key)
      (fun result later => result = .ok (names.filterMap start.servers.get?) ∧
        Yields key store later) store := by
  induction names generalizing store with
  | nil => exact fun later _ acted => ⟨rfl, acted⟩
  | cons name rest ih =>
      unfold presentServers
      refine Attempt.secures_get_bind (fun _ => rfl) ?present ?missing
      case present =>
        intro now sound acted server found
        rw [sound.servers] at found
        refine Attempt.secures_bind (ih.weaken ?_)
        rintro _ later _ ⟨rfl, acted_later⟩ last _ acted_last
        refine ⟨by rw [List.filterMap_cons, found], ?_⟩
        exact (racing start keys eligible key).rely_trans acted
          ((racing start keys eligible key).rely_trans acted_later acted_last)
      case missing =>
        intro now sound acted absent
        rw [sound.servers] at absent
        refine ih.weaken ?_
        rintro _ later _ ⟨rfl, acted_later⟩
        exact ⟨by rw [List.filterMap_cons, absent],
          (racing start keys eligible key).rely_trans acted acted_later⟩

variable {className : String} {serverClass : ServerClass}

theorem claimFromClass_racing (found : start.serverClasses.get? className = some serverClass)
    (wellFormed : serverClass.spec.IsWellFormed)
    (offers : Offers (start.candidates serverClass) eligible) (entered : machine.key ∈ keys)
    (same_key : copy.key = machine.key) (named : copy.metadata.name.isSome = true)
    (waits : Waits machine store) :
    (claimFromClass copy className).Secures (racing start keys eligible machine.key)
      (Claimed machine eligible) store := by
  unfold claimFromClass
  refine Attempt.secures_attemptCall_bind fun now sound acted => ?_
  have reply : (now.perform (.getServerClass className)).1 = .ok serverClass := by
    change Store.found _ (now.serverClasses.get? className) = _
    rw [sound.serverClasses, found]
    rfl
  refine ⟨sound, Takes.refl now, fun result given => ?_, fun error failed => ?_⟩
  · obtain rfl : serverClass = result := Except.ok.inj (reply.symm.trans given)
    refine Attempt.secures_bind ((presentServers_racing _).weaken ?_)
    rintro _ later _ ⟨rfl, acted_later⟩
    dsimp only [Attempt.Rest]
    rw [qualifiedServers_eq wellFormed]
    exact claimFirst_racing offers entered same_key named
      ((waits.of_yields acted).of_yields acted_later) _
  · exact nomatch reply.symm.trans failed

/-- A machine that waits and names the class holds a server in the end, or all names are bound. -/
theorem serverFromClass_racing (found : start.serverClasses.get? className = some serverClass)
    (wellFormed : serverClass.spec.IsWellFormed)
    (offers : Offers (start.candidates serverClass) eligible) (entered : machine.key ∈ keys)
    (same_key : copy.key = machine.key) (named : copy.metadata.name.isSome = true)
    (asks : copy.spec.serverClassRef.map Reference.name = some className)
    (waits : Waits machine store) :
    (serverFromClass copy).Secures (racing start keys eligible machine.key)
      (Claimed machine eligible) store := by
  unfold serverFromClass
  have shows : Shows (racing start keys eligible machine.key) copy.key (fun _ _ => False)
      store := by
    intro now _ acted name binding found held
    have free := (waits.of_yields acted).free name binding found
    rw [same_key] at held
    exact nomatch free.symm.trans held
  refine Attempt.secures_bind ((heldBindings_secures (fun _ => True) (fun _ _ _ _ _ known => known)
    (fun _ _ _ => trivial) shows fun _ _ _ _ => trivial).weaken ?_)
  rintro _ now sound ⟨none_held, rfl, acted, held, _⟩
  cases none_held with
  | cons binding others => exact (held binding List.mem_cons_self).elim
  | nil =>
      obtain ⟨reference, named_class, rfl⟩ := Option.map_eq_some_iff.1 asks
      dsimp only [Attempt.Rest]
      rw [named_class]
      exact claimFromClass_racing found wellFormed offers entered same_key named
        (waits.of_yields acted)

end

/-! ## Passes in a race -/

/-- How a pass over a machine ends, with what the machine then names: it holds just one server and
waits for the binding, or it holds none because all eligible names are bound. -/
inductive Verdict (key : ObjectKey) (eligible : List String) :
    Except PassError Outcome → Option Reference → Store → Prop
  /-- The machine holds just the server that it names. -/
  | won {store : Store} {server : String} (holds : store.HoldsJust key server) :
      Verdict key eligible (.ok (.requeue .bindingNotReady)) (some (.ofName server)) store
  /-- The machine holds nothing, and nothing is left. -/
  | lost {store : Store} (free : store.HoldsNothing key)
      (bound : ∀ name ∈ eligible, store.Bound name) :
      Verdict key eligible (.ok (.requeue .noEligibleServers)) none store

section

variable {start store : Store} {keys : List ObjectKey} {eligible : List String}
  {machine after : MetalMachine} {key : ObjectKey} {result : Except PassError Outcome}
  {reference : Option Reference}

theorem Verdict.of_yields {later : Store} (verdict : Verdict key eligible result reference store)
    (yields : Yields key store later) : Verdict key eligible result reference later := by
  cases verdict with
  | won holds => exact .won (holds.of_yields yields)
  | lost free bound =>
      exact .lost (free.of_yields yields) fun name member => (bound name member).of_yields yields

/-- Writes of machines do not change a verdict. -/
theorem Verdict.withMachine (verdict : Verdict key eligible result reference store)
    (other : ObjectKey) (written : MetalMachine) :
    Verdict key eligible result reference (store.withMachine other written) := by
  cases verdict with
  | won holds => exact .won holds
  | lost free bound => exact .lost free bound

/-- A machine that passes all gates is let through. -/
theorem gates_racing (admits : start.Admits machine) :
    (gates machine.key machine).Secures (racing start keys eligible key) (fun result later =>
      (∃ cluster, result = .ok (.passed cluster)) ∧ Yields key store later) store := by
  obtain ⟨ownerKey, owner, name, cluster, owned, owner_found, names, found, runs, ready, booted⟩ :=
    admits
  have trans := @(racing start keys eligible key).rely_trans
  unfold gates
  rw [owned]
  refine Attempt.secures_get_bind (fun _ => rfl) ?present ?missing
  case missing =>
    intro now sound _ absent
    rw [sound.machines] at absent
    exact nomatch absent.symm.trans owner_found
  case present =>
    intro now sound acted other other_found
    rw [sound.machines] at other_found
    obtain rfl : other = owner := Option.some.inj (other_found.symm.trans owner_found)
    dsimp only
    unfold ownerGates
    rw [names]
    refine Attempt.secures_get_bind (fun _ => rfl) ?present ?missing
    case missing =>
      intro later sound_later _ absent
      rw [sound_later.clusters] at absent
      exact nomatch absent.symm.trans found
    case present =>
      intro later sound_later acted_later present present_found
      rw [sound_later.clusters] at present_found
      obtain rfl : present = cluster := Option.some.inj (present_found.symm.trans found)
      refine fun last _ acted_last => ⟨⟨⟨machine.key.space, name⟩, ?_⟩, ?_⟩
      · have secret : other.bootstrapSecret?.isNone = false := by
          rw [← Option.not_isSome, booted]
          rfl
        simp [clusterGate, runs, ready, secret]
      · exact trans acted (trans acted_later acted_last)

/-- A machine that holds just one server is told to wait for the binding. -/
theorem reportReady_racing {copy : MetalMachine} (cluster : ObjectKey) (server : String)
    (holds : store.HoldsJust key server) :
    (reportReady copy cluster server).Secures (racing start keys eligible key)
      (fun ended later => ended.1 = .ok (.requeue .bindingNotReady) ∧
        ended.2.metadata = copy.metadata ∧ ended.2.spec.serverRef = copy.spec.serverRef ∧
          Yields key store later) store := by
  have trans := @(racing start keys eligible key).rely_trans
  unfold reportReady
  refine Pass.secures_get_bind (fun _ => rfl) ?present ?missing
  case present =>
    intro now sound acted binding found
    have unready : binding.isReady = false := by
      rw [ServerBinding.isReady, sound.unready server binding found]
      rfl
    dsimp only
    rw [unready]
    exact fun later _ acted_later => ⟨rfl, rfl, rfl, trans acted acted_later⟩
  case missing =>
    intro now _ acted absent
    obtain ⟨binding, found, _⟩ := (holds.of_yields acted).1
    exact nomatch absent.symm.trans found

/-- The verdict on a machine stands when its status is written back. -/
theorem commitMachineStatus_racing (same_key : after.key = key)
    (verdict : Verdict key eligible result reference store)
    (names : ∃ stored, store.metalMachines.get? key = some stored ∧
      stored.spec.serverRef = reference) :
    (commitMachineStatus machine after).Secures (racing start keys eligible key)
      (fun committed later => committed = .ok () ∧
        Verdict key eligible result (later.reference? key) later) store := by
  subst same_key
  obtain ⟨stored, found, rfl⟩ := names
  have ends : ∀ now, ∀ present : MetalMachine, now.metalMachines.get? after.key = some present →
      present.spec.serverRef = stored.spec.serverRef →
      Verdict after.key eligible result stored.spec.serverRef now →
        ∀ later, Yields after.key now later →
          Verdict after.key eligible result (later.reference? after.key) later := by
    intro now present found same verdict_now later acted
    have names_later : later.reference? after.key = stored.spec.serverRef := by
      rw [Store.reference?, acted.own, found, Option.bind_some, same]
    exact names_later ▸ verdict_now.of_yields acted
  refine commitMachineStatus_secures ?unchanged ?gone ?written
  case unchanged =>
    exact fun later _ acted _ => ⟨rfl, ends store stored found rfl verdict later acted⟩
  case gone =>
    intro now _ acted absent
    simp [acted.own, found] at absent
  case written =>
    intro now sound acted present present_found _
    have same : present = stored :=
      Option.some.inj (present_found.symm.trans (acted.own.trans found))
    subst same
    obtain ⟨sound_after, takes⟩ := sound.withMachine
      (now.machineWithStatus present after.currentStatus)
      (sound.machine_key _ present present_found) rfl
    refine ⟨⟨sound_after, takes⟩, fun later _ acted_later => ⟨rfl, ?_⟩⟩
    exact ends _ (now.machineWithStatus present after.currentStatus)
      (Dict.get?_insert_self _ _ _) rfl ((verdict.of_yields acted).withMachine _ _) later
      acted_later

/-- The verdict on a machine stands when the machine is written back as it was read, but for what
allocation changed. -/
theorem commitMachine_racing (own : store.metalMachines.get? machine.key = some machine)
    (stays : machine.isDeleting = false) (metadata : after.metadata = machine.addFinalizer.metadata)
    (verdict : Verdict machine.key eligible result after.spec.serverRef store) :
    (commitMachine machine after).Secures (racing start keys eligible machine.key)
      (fun committed later => committed = .ok () ∧
        Verdict machine.key eligible result (later.reference? machine.key) later) store := by
  have same_key : after.key = machine.key := by
    rw [MetalMachine.key, metadata, ← MetalMachine.key, MetalMachine.key_addFinalizer]
  have same_version : after.metadata.resourceVersion = machine.metadata.resourceVersion := by
    rw [metadata]
    unfold MetalMachine.addFinalizer
    split <;> rfl
  refine commitMachine_unrivalled_secures ?own stays same_key same_version ?unchanged ?written
  case own => exact fun now acted => acted.own.trans own
  case unchanged =>
    intro same
    have same_spec := (MetalMachine.bodyChanged_eq_false_iff.1 same).2
    exact commitMachineStatus_racing same_key verdict ⟨machine, own, by rw [same_spec]⟩
  case written =>
    intro now sound acted
    obtain ⟨sound_after, takes⟩ :=
      sound.withMachine (now.updatedMachine machine after) rfl rfl
    refine ⟨⟨sound_after, takes⟩, commitMachineStatus_racing same_key
      ((verdict.of_yields acted).withMachine _ _) ⟨_, Dict.get?_insert_self _ _ _, rfl⟩⟩

variable {className : String} {serverClass : ServerClass}

/-- A machine that enters the race for the servers of a class. -/
structure Entrant (store : Store) (className : String) (machine : MetalMachine) : Prop where
  /-- It has a name. -/
  named : machine.metadata.name.isSome = true
  /-- It is not marked for deletion. -/
  stays : machine.isDeleting = false
  /-- It names no server. -/
  serverless : machine.spec.serverRef = none
  /-- It names the class. -/
  asks : machine.spec.serverClassRef.map Reference.name = some className
  /-- It passes all gates. -/
  admitted : store.Admits machine

/-- An allocation in the race ends with a verdict, and with the machine as it was read. -/
theorem allocate_racing (found : start.serverClasses.get? className = some serverClass)
    (wellFormed : serverClass.spec.IsWellFormed)
    (offers : Offers (start.candidates serverClass) eligible) (entered : machine.key ∈ keys)
    (entrant : Entrant start className machine) (waits : Waits machine store)
    (cluster : ObjectKey) :
    (allocate machine cluster).Secures (racing start keys eligible machine.key)
      (fun ended later => ended.2.metadata = machine.addFinalizer.metadata ∧
        later.metalMachines.get? machine.key = some machine ∧
          Verdict machine.key eligible ended.1 ended.2.spec.serverRef later) store := by
  have same_key : machine.addFinalizer.clearInvalid.key = machine.key := by simp
  have named : machine.addFinalizer.clearInvalid.metadata.name.isSome = true := by
    rw [MetalMachine.metadata_clearInvalid]
    unfold MetalMachine.addFinalizer
    split <;> exact entrant.named
  have asks : machine.addFinalizer.clearInvalid.spec.serverClassRef.map Reference.name =
      some className := by
    rw [MetalMachine.spec_clearInvalid, MetalMachine.spec_addFinalizer, entrant.asks]
  obtain ⟨reference, names_class, _⟩ := Option.map_eq_some_iff.1 entrant.asks
  unfold allocate
  simp only [MetalMachine.spec_addFinalizer, entrant.serverless, names_class]
  unfold allocateFromClass
  refine Pass.secures_bind.2 ((serverFromClass_racing found wellFormed offers entered same_key named
    asks waits).weaken ?_)
  intro result now _ claimed
  cases claimed with
  | @claimed now server own holds =>
      refine (reportReady_racing cluster server holds).weaken ?_
      rintro ⟨_, after⟩ later _ ⟨rfl, same_metadata, same_reference, acted⟩
      refine ⟨same_metadata.trans (MetalMachine.metadata_clearInvalid _), acted.own.trans own, ?_⟩
      rw [same_reference]
      exact .won (holds.of_yields acted)
  | exhausted waits bound =>
      refine Pass.secures_count_bind fun later _ acted =>
        ⟨MetalMachine.metadata_clearInvalid _, acted.own.trans waits.own, ?_⟩
      have names_none : machine.addFinalizer.clearInvalid.spec.serverRef = none := by
        rw [MetalMachine.spec_clearInvalid, MetalMachine.spec_addFinalizer, entrant.serverless]
      rw [names_none]
      exact .lost (waits.free.of_yields acted) fun name member =>
        (bound name member).of_yields acted

/-- The pass over a machine in the race ends with a verdict. -/
theorem machinePass_racing (found : start.serverClasses.get? className = some serverClass)
    (wellFormed : serverClass.spec.IsWellFormed)
    (offers : Offers (start.candidates serverClass) eligible) (entered : machine.key ∈ keys)
    (entrant : Entrant start className machine) (waits : Waits machine store) :
    (machinePass machine.key).Secures (racing start keys eligible machine.key)
      (fun result later =>
        Verdict machine.key eligible result (later.reference? machine.key) later) store := by
  refine machinePass_secures ?present ?absent
  case absent =>
    intro now _ acted absent
    exact nomatch absent.symm.trans (waits.of_yields acted).own
  case present =>
    intro now _ acted read read_found
    have waits_now := waits.of_yields acted
    obtain rfl : read = machine := Option.some.inj (read_found.symm.trans waits_now.own)
    unfold currentMachinePass
    rw [entrant.stays]
    refine Pass.secures_bind.2 ((gates_racing entrant.admitted).weaken ?_)
    rintro _ later _ ⟨⟨cluster, rfl⟩, acted_later⟩
    dsimp only [Bool.false_eq_true, if_false]
    unfold withCommit
    refine Pass.secures_bind.2 ((allocate_racing found wellFormed offers entered entrant
      (waits_now.of_yields acted_later) cluster).weaken ?_)
    rintro ⟨result, after⟩ last _ ⟨metadata, own, verdict⟩
    unfold finishMachine
    refine Pass.secures_bind.2 ((commitMachine_racing own entrant.stays metadata verdict).weaken ?_)
    rintro _ ended _ ⟨rfl, verdict_ended⟩ final _ acted_final
    have same_result : settled result (.ok ()) = result := by cases result <;> rfl
    have same_reference : final.reference? read.key = ended.reference? read.key := by
      rw [Store.reference?, acted_final.own, Store.reference?]
    rw [same_result, same_reference]
    exact verdict_ended.of_yields acted_final

end

end BareMetal
