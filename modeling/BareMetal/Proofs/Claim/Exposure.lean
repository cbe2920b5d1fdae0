import BareMetal.Proofs.Claim.Racing
import BareMetal.Proofs.Claim.Sequential

/-!
# Servers held without the finalizer

A machine is to carry the finalizer for as long as it holds a server, so that it cannot go before
the server was released.  A pass over a machine puts the finalizer on it whenever it claims.  A pass
over a server does not: it claims the server for a machine that names it, and leaves the machine as
it is until a pass over the machine gets past the gates.
-/

namespace BareMetal

open Store

variable {store before after first last : Store} {machine copy : MetalMachine}
  {key : ObjectKey} {server : String}

namespace Store

/-- The machine of a key is there and does not carry the finalizer. -/
def Bare (store : Store) (key : ObjectKey) : Prop :=
  ∃ machine, store.metalMachines.get? key = some machine ∧ machine.hasFinalizer = false

/-- A machine holds a server and does not carry the finalizer. -/
def Exposed (store : Store) (key : ObjectKey) (server : String) : Prop :=
  store.Holds key server ∧ store.Bare key

/-- The machine of a key stays, and a pass over it gets past the gates. -/
def Tends (store : Store) (key : ObjectKey) : Prop :=
  ∃ machine, store.metalMachines.get? key = some machine ∧ machine.isDeleting = false ∧
    store.Admits machine

theorem bare_congr (same : after.metalMachines.get? key = before.metalMachines.get? key) :
    after.Bare key ↔ before.Bare key := by
  rw [Bare, Bare, same]

theorem exposed_congr (holds : after.Holds key server ↔ before.Holds key server)
    (same : after.metalMachines.get? key = before.metalMachines.get? key) :
    after.Exposed key server ↔ before.Exposed key server :=
  and_congr holds (bare_congr same)

theorem not_tends_of_deleting (found : store.metalMachines.get? key = some machine)
    (deleting : machine.isDeleting = true) : ¬store.Tends key := by
  rintro ⟨other, found_other, stays, _⟩
  obtain rfl : machine = other := Option.some.inj (found.symm.trans found_other)
  exact nomatch deleting.symm.trans stays

end Store

/-! ## Passes over machines -/

/-- A pass over the machine of a key took exposure from this machine if it got past the gates, and
changed nothing of it otherwise. -/
def Covers (key : ObjectKey) (before after : Store) : Prop :=
  ∀ other server, after.Exposed other server ↔
    before.Exposed other server ∧ ¬(other = key ∧ before.Tends key)

theorem covers_self (waits : ¬store.Tends key) : Covers key store store :=
  fun _ _ => ⟨fun exposed => ⟨exposed, fun tends => waits tends.2⟩, And.left⟩

theorem Store.LetGo.covers (letGo : LetGo machine.key before after)
    (found : before.metalMachines.get? machine.key = some machine)
    (deleting : machine.isDeleting = true) (guarded : machine.hasFinalizer = true) :
    Covers machine.key before after := by
  have waits := not_tends_of_deleting found deleting
  have not_bare : ¬before.Bare machine.key := by
    rintro ⟨stored, found_stored, bare⟩
    obtain rfl : machine = stored := Option.some.inj (found.symm.trans found_stored)
    exact nomatch guarded.symm.trans bare
  -- The bindings of the machine may go; those of the others stay.
  have holds_old : ∀ {now : Store}, Relieved machine.key before now → ∀ other server,
      (now.Holds other server → before.Holds other server) ∧
        (other ≠ machine.key → before.Holds other server → now.Holds other server) := by
    intro now relieved other server
    constructor
    · rintro ⟨binding, found_binding, held⟩
      exact ⟨binding, relieved.old server binding found_binding, held⟩
    · rintro differs ⟨binding, found_binding, held⟩
      refine ⟨binding, relieved.others server binding found_binding ?_, held⟩
      refine Bool.eq_false_iff.2 fun held_too => differs ?_
      exact (ServerBinding.isHeldBy_iff.1 held).symm.trans (ServerBinding.isHeldBy_iff.1 held_too)
  intro other server
  by_cases own : other = machine.key
  · subst own
    refine iff_of_false ?_ fun exposed => not_bare exposed.1.2
    rintro ⟨holds, bare⟩
    cases letGo with
    | relieved relieved =>
        exact not_bare ((bare_congr (congrArg (·.get? machine.key) relieved.metalMachines)).1 bare)
    | dismissed relieved free dismissed =>
        obtain ⟨binding, found_binding, held⟩ := (holds_congr dismissed.serverBindings).1 holds
        exact nomatch (free server binding found_binding).symm.trans held
  · have same : after.Exposed other server ↔ before.Exposed other server := by
      cases letGo with
      | relieved relieved =>
          exact exposed_congr ⟨(holds_old relieved other server).1,
            (holds_old relieved other server).2 own⟩
              (congrArg (·.get? other) relieved.metalMachines)
      | @dismissed now _ relieved free dismissed =>
          refine exposed_congr ((holds_congr dismissed.serverBindings).trans
            ⟨(holds_old relieved other server).1, (holds_old relieved other server).2 own⟩) ?_
          rw [dismissed.others other own, relieved.metalMachines]
    rw [same]
    exact ⟨fun exposed => ⟨exposed, fun tends => own tends.1⟩, And.left⟩

theorem clusterGate_passed_iff (clusterKey : ObjectKey) (cluster : Cluster) (owner : Machine) :
    (∃ key, clusterGate clusterKey cluster owner = .passed key) ↔
      cluster.spec.paused = false ∧ cluster.isInfrastructureReady = true ∧
        owner.bootstrapSecret?.isSome = true := by
  unfold clusterGate
  cases cluster.spec.paused <;> cases cluster.isInfrastructureReady <;>
    cases owner.bootstrapSecret? <;> simp

/-- The gates only look around, and they let a machine through exactly if it is admitted. -/
theorem gates_alone (machine : MetalMachine) (store : Store) :
    (gates machine.key machine).Secures alone (fun result later => store = later ∧
      ((∃ cluster, result = .ok (.passed cluster)) ↔ store.Admits machine)) store := by
  unfold gates
  cases owned : machine.ownerKey? with
  | none => exact fun later _ same => ⟨same, by simp [Admits, owned]⟩
  | some ownerKey =>
      refine Attempt.secures_get_bind (fun _ => rfl) ?present ?missing
      case missing =>
        rintro now _ rfl absent later _ rfl
        have absent : store.machines.get? ownerKey = none := absent
        exact ⟨rfl, by simp [Admits, owned, absent]⟩
      case present =>
        rintro now _ rfl owner found_owner
        have found_owner : store.machines.get? ownerKey = some owner := found_owner
        dsimp only
        unfold ownerGates
        cases names : owner.clusterName? with
        | none =>
            rintro later _ rfl
            exact ⟨rfl, by simp [Admits, owned, found_owner, names]⟩
        | some name =>
            refine Attempt.secures_get_bind (fun _ => rfl) ?present ?missing
            case missing =>
              rintro now _ rfl absent later _ rfl
              have absent : store.clusters.get? ⟨machine.key.space, name⟩ = none := absent
              exact ⟨rfl, by simp [Admits, owned, found_owner, names, absent]⟩
            case present =>
              rintro now _ rfl cluster found later _ rfl
              have found : store.clusters.get? ⟨machine.key.space, name⟩ = some cluster := found
              refine ⟨rfl, ?_⟩
              simpa [Admits, owned, found_owner, names, found] using
                clusterGate_passed_iff ⟨machine.key.space, name⟩ cluster owner

theorem hasFinalizer_congr (same : copy.metadata.finalizers = machine.metadata.finalizers) :
    copy.hasFinalizer = machine.hasFinalizer := by
  rw [MetalMachine.hasFinalizer, MetalMachine.hasFinalizer, same]

theorem MetalMachine.hasFinalizer_addFinalizer (machine : MetalMachine) :
    machine.addFinalizer.hasFinalizer = true := by
  unfold addFinalizer
  split
  · assumption
  · simp [hasFinalizer]

theorem commitMachineStatus_guards (key_eq : copy.key = machine.key)
    (guarded : ¬store.Bare machine.key) :
    (commitMachineStatus machine copy).Secures alone (fun _ later => ¬later.Bare machine.key)
      store := by
  refine commitMachineStatus_secures ?_ ?_ ?_
  · rintro later _ rfl _
    exact guarded
  · rintro now _ rfl _ later _ rfl _
    exact guarded
  · rintro now _ rfl present found _
    rw [key_eq] at found ⊢
    refine ⟨⟨trivial, trivial⟩, ?_⟩
    rintro later _ rfl ⟨stored, found_stored, bare⟩
    rcases Dict.get?_insert_eq_some.1 found_stored with ⟨_, rfl⟩ | ⟨differs, _⟩
    · exact guarded ⟨present, found, bare⟩
    · exact differs rfl

/-- A machine that is written back with the finalizer carries it. -/
theorem commitMachine_guards (found : store.metalMachines.get? machine.key = some machine)
    (stays : machine.isDeleting = false) (key_eq : copy.key = machine.key)
    (version_eq : copy.metadata.resourceVersion = machine.metadata.resourceVersion)
    (guarded : copy.hasFinalizer = true) :
    (commitMachine machine copy).Secures alone (fun _ later => ¬later.Bare machine.key) store := by
  have own : ∀ now, store = now → now.metalMachines.get? machine.key = some machine := by
    rintro now rfl
    exact found
  refine commitMachine_unrivalled_secures own stays key_eq version_eq ?_ ?_
  · intro same
    refine commitMachineStatus_guards key_eq ?_
    rintro ⟨stored, found_stored, bare⟩
    obtain rfl : machine = stored := Option.some.inj (found.symm.trans found_stored)
    have same_finalizers := (MetalMachine.bodyChanged_eq_false_iff.1 same).1
    exact nomatch guarded.symm.trans ((hasFinalizer_congr same_finalizers).symm.trans bare)
  · rintro now _ rfl
    refine ⟨⟨trivial, trivial⟩, commitMachineStatus_guards key_eq ?_⟩
    rintro ⟨stored, found_stored, bare⟩
    rcases Dict.get?_insert_eq_some.1 found_stored with ⟨_, rfl⟩ | ⟨differs, _⟩
    · have same : (store.updatedMachine machine copy).hasFinalizer = copy.hasFinalizer :=
        hasFinalizer_congr rfl
      exact nomatch guarded.symm.trans (same.symm.trans bare)
    · exact differs rfl

/-- A machine that got past the gates carries the finalizer afterwards, whatever it claimed. -/
theorem allocating_alone (accord : store.Accord)
    (found : store.metalMachines.get? machine.key = some machine)
    (stays : machine.isDeleting = false) (admits : store.Admits machine) (cluster : ObjectKey) :
    (withCommit machine (allocate · cluster)).Secures alone
      (fun _ later => Covers machine.key store later) store := by
  have named := accord.machine_named _ machine found
  unfold withCommit
  refine Pass.secures_bind.2
    ((allocate_secures (holdsAlone_grants accord machine) cluster).weaken ?_)
  rintro ⟨result, copy⟩ now _ prepared
  obtain ⟨kept, same_machines⟩ := accord.of_prepared prepared
  have found_now : now.metalMachines.get? machine.key = some machine := same_machines ▸ found
  have guarded : copy.hasFinalizer = true := by
    rw [← MetalMachine.hasFinalizer_addFinalizer machine]
    exact hasFinalizer_congr (congrArg Metadata.finalizers prepared.metadata)
  have others_hold : ∀ other server, other ≠ machine.key →
      (now.Holds other server ↔ store.Holds other server) := by
    intro other server differs
    rcases new_of_prepared prepared with rfl | ⟨claimed, serverClass, _, free, rfl⟩
    · exact .rfl
    · rw [holds_withCreated_iff free, machine.claimant_eq_key named]
      exact or_iff_left fun own => differs own.1
  have commits := (commitMachine_rewritten kept found_now stays prepared.key_eq
    prepared.resourceVersion_eq).and (commitMachine_guards found_now stays prepared.key_eq
      prepared.resourceVersion_eq guarded)
  refine finishMachine_alone (commits.weaken ?_)
  rintro _ later _ ⟨rewritten, not_bare⟩ other server
  by_cases own : other = machine.key
  · subst own
    exact iff_of_false (fun exposed => not_bare exposed.2) fun exposed =>
      exposed.2 ⟨rfl, machine, found, stays, admits⟩
  · have same_machine : later.metalMachines.get? other = store.metalMachines.get? other := by
      rw [rewritten.others other own, same_machines]
    rw [exposed_congr ((holds_congr rewritten.serverBindings).trans
      (others_hold other server own)) same_machine]
    exact ⟨fun exposed => ⟨exposed, fun tends => own tends.1⟩, And.left⟩

theorem machinePass_covers (accord : store.Accord) (key : ObjectKey) :
    (machinePass key).Secures alone (fun _ later => Covers key store later) store := by
  refine machinePass_secures ?present ?absent
  case absent =>
    rintro now _ rfl absent later _ rfl
    refine covers_self ?_
    rintro ⟨machine, found, _⟩
    exact nomatch absent.symm.trans found
  case present =>
    rintro now _ rfl machine found
    obtain rfl : machine.key = key := accord.machine_key key machine found
    unfold currentMachinePass
    cases stays : machine.isDeleting with
    | true =>
        rw [if_pos rfl]
        cases guarded : machine.hasFinalizer with
        | true =>
            exact (releasing_alone accord found stays).weaken fun _ _ _ letGo =>
              letGo.covers found stays guarded
        | false =>
            rintro later _ rfl
            exact covers_self (not_tends_of_deleting found stays)
    | false =>
        refine Pass.secures_bind.2 ((gates_alone machine store).weaken ?_)
        rintro result now _ ⟨rfl, passed_iff⟩
        have waits : (¬∃ cluster, result = .ok (.passed cluster)) → ¬store.Tends machine.key := by
          rintro shut ⟨stored, found_stored, _, admits⟩
          obtain rfl : machine = stored := Option.some.inj (found.symm.trans found_stored)
          exact shut (passed_iff.2 admits)
        match result with
        | .error _ | .ok (.closed _) =>
            rintro later _ rfl
            exact covers_self (waits (by simp))
        | .ok (.passed cluster) =>
            exact allocating_alone accord found stays (passed_iff.1 ⟨cluster, rfl⟩) cluster

/-! ## Passes over anything -/

/-- A pass over the machine of a key gets past the gates. -/
def Subject.Guards (subject : Subject) (store : Store) (key : ObjectKey) : Prop :=
  subject = .machine key ∧ store.Tends key

/-- A pass over a server claims it for a machine that does not carry the finalizer. -/
structure Subject.Exposes (subject : Subject) (world : Surroundings) (key : ObjectKey)
    (server : String) : Prop where
  /-- The pass is one over the server. -/
  over_server : subject = .server server
  /-- The server is free. -/
  free : world.store.serverBindings.get? server = none
  /-- The machine is there without the finalizer. -/
  bare : world.store.Bare key
  /-- The pass gives the server to the machine. -/
  claims : (subject.pass.run world).2.store.Holds key server

/-- Neither the finalizers nor the holders of servers change. -/
structure SameClaims (before after : Store) : Prop where
  /-- No metal machine was touched. -/
  metalMachines : after.metalMachines = before.metalMachines
  /-- Servers are held as they were. -/
  holds : ∀ key server, after.Holds key server ↔ before.Holds key server

theorem SameClaims.exposed_iff (same : SameClaims before after) :
    after.Exposed key server ↔ before.Exposed key server :=
  exposed_congr (same.holds key server) (congrArg (·.get? key) same.metalMachines)

theorem SameClaims.of_leavesClaims (leaves : LeavesClaims before after) :
    SameClaims before after :=
  ⟨leaves.metalMachines, fun _ _ => holds_congr leaves.serverBindings⟩

theorem SameClaims.trans {middle : Store} (front : SameClaims before middle)
    (back : SameClaims middle after) : SameClaims before after :=
  ⟨back.metalMachines.trans front.metalMachines, fun key server =>
    (back.holds key server).trans (front.holds key server)⟩

theorem bindingPass_sameClaims (name : String) (store : Store) :
    (bindingPass name).Secures alone (fun _ later => SameClaims store later) store := by
  refine bindingPass_secures (alone_stable _) ⟨rfl, fun _ _ => .rfl⟩ ?_ name
  intro now _ same name binding status found
  refine ⟨⟨trivial, trivial⟩, same.trans ⟨rfl, ?_⟩⟩
  exact holds_withBinding_iff found status

theorem classPass_sameClaims (name : String) (store : Store) :
    (classPass name).Secures alone (fun _ later => SameClaims store later) store := by
  refine classPass_secures (alone_stable _) ?_ name ⟨rfl, fun _ _ => .rfl⟩
  intro now _ same name change
  exact ⟨⟨trivial, trivial⟩,
    same.trans (.of_leavesClaims (leavesClaims_changeServerClass now name change))⟩

/-- A claim that comes of healing exposes the machine exactly if it does not carry the
finalizer. -/
theorem Healed.exposed_iff {healed : String} (accord : before.Accord)
    (heals : Healed healed before after) : after.Exposed key server ↔
      before.Exposed key server ∨ healed = server ∧ before.serverBindings.get? server = none ∧
        before.Bare key ∧ after.Holds key server := by
  cases heals with
  | @claimed machine found names free serverClass =>
      have holds_iff := @holds_withCreated_iff _ machine _ free serverClass key server
      rw [machine.claimant_eq_key (accord.machine_named _ _ found)] at holds_iff
      constructor
      · rintro ⟨holds, bare⟩
        rcases holds_iff.1 holds with held | ⟨rfl, rfl⟩
        · exact .inl ⟨held, bare⟩
        · exact .inr ⟨rfl, free, bare, holds⟩
      · rintro (⟨held, bare⟩ | ⟨rfl, _, bare, holds⟩)
        · exact ⟨holds_iff.2 (.inl held), bare⟩
        · exact ⟨holds, bare⟩

/-- Of a pass over anything, a machine comes out exposed exactly if it went in so and the pass did
not get past the gates of the machine, or if the pass healed a binding for it. -/
theorem exposed_pass_iff {world : Surroundings} (accord : world.store.Accord) (subject : Subject) :
    (subject.pass.run world).2.store.Exposed key server ↔
      (world.store.Exposed key server ∧ ¬subject.Guards world.store key) ∨
        subject.Exposes world key server := by
  have elsewhere : (∀ name, subject ≠ .server name) → (∀ key, subject ≠ .machine key) →
      SameClaims world.store (subject.pass.run world).2.store →
        ((subject.pass.run world).2.store.Exposed key server ↔
          (world.store.Exposed key server ∧ ¬subject.Guards world.store key) ∨
            subject.Exposes world key server) := by
    intro no_server no_machine same
    rw [same.exposed_iff]
    constructor
    · exact fun exposed => .inl ⟨exposed, fun guards => no_machine key guards.1⟩
    · rintro (exposed | exposes)
      · exact exposed.1
      · exact absurd exposes.over_server (no_server server)
  cases subject with
  | binding name =>
      have same : SameClaims _ _ := (bindingPass_sameClaims name world.store).run trivial
      exact elsewhere (by simp) (by simp) same
  | serverClass name =>
      have same : SameClaims _ _ := (classPass_sameClaims name world.store).run trivial
      exact elsewhere (by simp) (by simp) same
  | machine looked =>
      have covers : Covers _ _ _ := (machinePass_covers accord looked).run trivial
      refine (covers key server).trans ?_
      constructor
      · rintro ⟨exposed, waits⟩
        refine .inl ⟨exposed, ?_⟩
        rintro ⟨⟨⟩, tends⟩
        exact waits ⟨rfl, tends⟩
      · rintro (⟨exposed, waits⟩ | exposes)
        · refine ⟨exposed, ?_⟩
          rintro ⟨rfl, tends⟩
          exact waits ⟨rfl, tends⟩
        · exact nomatch exposes.over_server
  | server healed =>
      have unguarded : ¬(Subject.server healed).Guards world.store key := fun guards =>
        nomatch guards.1
      have settled : Healed healed world.store ((serverPass healed).run world).2.store ∨
          world.store = ((serverPass healed).run world).2.store :=
        (serverPass_alone accord healed).run trivial
      rcases settled with heals | same
      · rw [Subject.pass, heals.exposed_iff accord]
        refine or_congr (and_iff_left unguarded).symm ⟨?_, ?_⟩
        · rintro ⟨rfl, free, bare, holds⟩
          exact ⟨rfl, free, bare, holds⟩
        · rintro ⟨⟨⟩, free, bare, holds⟩
          exact ⟨rfl, free, bare, holds⟩
      · rw [Subject.pass, ← same]
        refine ⟨fun exposed => .inl ⟨exposed, unguarded⟩, ?_⟩
        rintro (exposed | ⟨_, free, _, binding, found, _⟩)
        · exact exposed.1
        · rw [Subject.pass, ← same, free] at found
          exact nomatch found

/-! ## Courses -/

/-- What happens to a store between two moments at which no pass is under way. -/
inductive Turn where
  /-- A pass over an object runs to its end in some surroundings. -/
  | pass (subject : Subject) (world : Surroundings)
  /-- The store is changed from outside. -/
  | outside

/-- Passes run one after the other, each with whatever its allocator remembers, and in between
machines may come and everything that is neither a binding nor a metal machine may change. -/
inductive Course (first : Store) : List Turn → Store → Prop
  /-- Nothing happened yet. -/
  | refl : Course first [] first
  /-- A pass runs to its end. -/
  | pass {turns : List Turn} {world : Surroundings} (course : Course first turns world.store)
      (subject : Subject) :
      Course first (turns ++ [.pass subject world]) (subject.pass.run world).2.store
  /-- Something comes from outside. -/
  | outside {turns : List Turn} {before after : Store} (course : Course first turns before)
      (comes : Comes (fun _ => True) before after) : Course first (turns ++ [.outside]) after

/-- A pass over the machine of a key gets past the gates. -/
def Turn.Guards (key : ObjectKey) : Turn → Prop
  | .pass subject world => subject.Guards world.store key
  | .outside => False

/-- A pass over a server claims it for a machine that does not carry the finalizer. -/
def Turn.Exposes (key : ObjectKey) (server : String) : Turn → Prop
  | .pass subject world => subject.Exposes world key server
  | .outside => False

theorem Store.Comes.move {Kind : MetalMachine → Prop} (comes : Comes Kind before after) :
    Move before after := by
  cases comes with
  | elsewhere leaves => exact .elsewhere leaves
  | machine machine _ named stays unused => exact .addMachine machine named stays unused

theorem Course.accord {turns : List Turn} (course : Course first turns last)
    (accord : first.Accord) : last.Accord := by
  induction course with
  | refl => exact accord
  | pass course subject ih => exact ((Move.pass subject rfl).accord ih).1
  | outside course comes ih => exact (comes.move.accord ih).1

theorem exposed_comes_iff {Kind : MetalMachine → Prop} (accord : before.Accord)
    (comes : Comes Kind before after) : after.Exposed key server ↔ before.Exposed key server := by
  cases comes with
  | elsewhere leaves => exact (SameClaims.of_leavesClaims leaves).exposed_iff
  | machine machine _ named stays unused =>
      obtain ⟨metalMachines, serverBindings, _⟩ := before.addMetalMachine_claims machine
      by_cases own : key = machine.key
      · -- A machine that was not there holds nothing.
        subst own
        have not_held : ¬before.Holds machine.key server := by
          rintro ⟨binding, found, held⟩
          obtain ⟨holder, _, found_holder, _⟩ := accord.named server binding found
          rw [ServerBinding.isHeldBy_iff.1 held, unused] at found_holder
          exact nomatch found_holder
        exact iff_of_false (fun exposed => not_held ((holds_congr serverBindings).1 exposed.1))
          fun exposed => not_held exposed.1
      · refine exposed_congr (holds_congr serverBindings) ?_
        rw [metalMachines, Dict.get?_insert_of_ne own]

/-- If passes run one after the other, a machine holds a server without the finalizer exactly if a
pass over the server claimed it for the machine, which did not carry the finalizer, and no pass over
the machine got past the gates since. -/
theorem exposed_iff_since {turns : List Turn} (arises : first.Arises)
    (unclaimed : ∀ name, first.serverBindings.get? name = none)
    (named : ∀ key machine, first.metalMachines.get? key = some machine →
      machine.metadata.name.isSome = true)
    (course : Course first turns last) : last.Exposed key server ↔
      Since (fun _ turn => turn.Exposes key server) (Turn.Guards key) turns := by
  have accord : first.Accord :=
    ⟨arises.wellKept, fun name _ found => (nomatch (unclaimed name).symm.trans found), named,
      fun name _ found => (nomatch (unclaimed name).symm.trans found)⟩
  induction course with
  | refl =>
      refine iff_of_false ?_ not_since_nil
      rintro ⟨⟨binding, found, _⟩, _⟩
      exact nomatch (unclaimed server).symm.trans found
  | pass course subject ih =>
      refine (exposed_pass_iff (course.accord accord) subject).trans ?_
      rw [since_append_singleton]
      exact or_congr (and_congr_left fun _ => ih) .rfl
  | outside course comes ih =>
      refine (exposed_comes_iff (course.accord accord) comes).trans (ih.trans ?_)
      simp [since_append_singleton, Turn.Guards, Turn.Exposes]

/-- A store with a machine that names a server and does not carry the finalizer. -/
def hasty : Store :=
  (Laboratory.store ["s"]).addMetalMachine
    (Laboratory.machine "a" { serverRef := some (.ofName "s") })

/-- The store after a pass over the server. -/
def healed : Store :=
  ((Subject.server "s").pass.run (Laboratory.surroundings hasty {})).2.store

/-- The store after a pass over the machine, too. -/
def tended : Store :=
  ((Subject.machine (Laboratory.key "a")).pass.run (Laboratory.surroundings healed {})).2.store

theorem hasty_arises : hasty.Arises :=
  (Laboratory.store_arises ["s"]).addMetalMachine
    (Laboratory.machine "a" { serverRef := some (.ofName "s") })

theorem hasty_named : ∀ key machine, hasty.metalMachines.get? key = some machine →
    machine.metadata.name.isSome = true := by
  have only_named : hasty.metalMachines.entries.all (fun entry =>
      entry.2.metadata.name.isSome) = true := by decide +kernel
  exact fun key machine found =>
    List.all_eq_true.1 only_named _ (Dict.get?_eq_some_iff.1 found)

theorem healed_course :
    Course hasty [.pass (.server "s") (Laboratory.surroundings hasty {})] healed :=
  have start : Course hasty [] (Laboratory.surroundings hasty {}).store := .refl
  start.pass (.server "s")

theorem healed_exposed : healed.Exposed (Laboratory.key "a") "s" := by
  have holds : healed.Holds (Laboratory.key "a") "s" := by decide +kernel
  have bare : (healed.metalMachines.get? (Laboratory.key "a")).any (fun machine =>
      !machine.hasFinalizer) = true := by decide +kernel
  obtain ⟨machine, found, without⟩ := (Option.any_eq_true _ _).1 bare
  exact ⟨holds, machine, found, by simpa using without⟩

theorem healed_tends : healed.Tends (Laboratory.key "a") := by
  have machine_fits : (healed.metalMachines.get? (Laboratory.key "a")).any (fun machine =>
      !machine.isDeleting && machine.ownerKey? == some (Laboratory.key "owner") &&
        machine.key.space == "lab") = true := by decide +kernel
  have owner_fits : (healed.machines.get? (Laboratory.key "owner")).any (fun owner =>
      owner.clusterName? == some "cluster" && owner.bootstrapSecret?.isSome) = true := by
    decide +kernel
  have cluster_fits : (healed.clusters.get? ⟨"lab", "cluster"⟩).any (fun cluster =>
      !cluster.spec.paused && cluster.isInfrastructureReady) = true := by decide +kernel
  obtain ⟨machine, found, fits⟩ := (Option.any_eq_true _ _).1 machine_fits
  obtain ⟨owner, found_owner, owner_fits⟩ := (Option.any_eq_true _ _).1 owner_fits
  obtain ⟨cluster, found_cluster, cluster_fits⟩ := (Option.any_eq_true _ _).1 cluster_fits
  simp only [Bool.and_eq_true, Bool.not_eq_true', beq_iff_eq] at fits owner_fits cluster_fits
  obtain ⟨⟨stays, owned⟩, space⟩ := fits
  exact ⟨machine, found, stays, _, owner, "cluster", cluster, owned, found_owner, owner_fits.1,
    space.symm ▸ found_cluster, cluster_fits.1, cluster_fits.2, owner_fits.2⟩

/-- From a store without bindings a pass over a server leaves a machine that holds the server and
does not carry the finalizer. -/
theorem server_held_without_finalizer : (∀ name, hasty.serverBindings.get? name = none) ∧
    Course hasty [.pass (.server "s") (Laboratory.surroundings hasty {})] healed ∧
      healed.Exposed (Laboratory.key "a") "s" :=
  ⟨fun _ => rfl, healed_course, healed_exposed⟩

/-- A pass over the machine puts an end to it. -/
theorem exposed_iff_since_hasty : hasty.Arises ∧
    (∀ name, hasty.serverBindings.get? name = none) ∧
      (∀ key machine, hasty.metalMachines.get? key = some machine →
        machine.metadata.name.isSome = true) ∧
        Course hasty [.pass (.server "s") (Laboratory.surroundings hasty {}),
          .pass (.machine (Laboratory.key "a")) (Laboratory.surroundings healed {})] tended ∧
          ¬tended.Exposed (Laboratory.key "a") "s" := by
  have course : Course hasty ([.pass (.server "s") (Laboratory.surroundings hasty {})] ++
      [.pass (.machine (Laboratory.key "a")) (Laboratory.surroundings healed {})]) tended :=
    have healing : Course hasty _ (Laboratory.surroundings healed {}).store := healed_course
    healing.pass (.machine (Laboratory.key "a"))
  refine ⟨hasty_arises, fun _ => rfl, hasty_named, course, fun exposed => ?_⟩
  rcases since_append_singleton.1
    ((exposed_iff_since hasty_arises (fun _ => rfl) hasty_named course).1 exposed) with
      ⟨_, unguarded⟩ | exposes
  · exact unguarded ⟨rfl, healed_tends⟩
  · exact nomatch exposes.over_server

end BareMetal
