import BareMetal.Proofs.Claim.Committing
import BareMetal.Proofs.Claim.Convergence
import BareMetal.Proofs.Claim.Releasing

/-!
# What a pass over a machine leaves alone

A pass over a machine writes nothing but that machine and bindings that the machine holds, whatever
the index says and however the pass ends.  Of the machine it leaves what others decide, and it
removes the machine, takes a server from it or deletes a binding only if the machine is marked for
deletion.
-/

namespace BareMetal

open Store

/-- A machine has everything of what it was but what is the allocator's. -/
structure MetalMachine.Retains (last machine : MetalMachine) : Prop where
  /-- Of the metadata at most the finalizers and the version differ. -/
  metadata : last.metadata = { machine.metadata with
    finalizers := last.metadata.finalizers
    resourceVersion := last.metadata.resourceVersion }
  /-- The finalizers of others are there in their order. -/
  finalizers : last.otherFinalizers = machine.otherFinalizers
  /-- Of the request at most the server and the provider ID differ. -/
  spec : last.spec = { machine.spec with
    serverRef := last.spec.serverRef
    providerId := last.spec.providerId }
  /-- A server that was named is named still, unless the machine is marked for deletion. -/
  serverRef : machine.spec.serverRef.isSome = true → machine.isDeleting = false →
    last.spec.serverRef = machine.spec.serverRef

/-- Of the bindings of a store none differ but those of a machine. -/
structure Store.Rebinds (machine : MetalMachine) (before after : Store) : Prop where
  /-- Bindings that the machine does not hold are as they were. -/
  others : ∀ name binding, before.serverBindings.get? name = some binding →
    binding.holder ≠ machine.key → after.serverBindings.get? name = some binding
  /-- Those that it holds are not changed. -/
  unchanged : ∀ name binding later, before.serverBindings.get? name = some binding →
    after.serverBindings.get? name = some later → later = binding
  /-- They are deleted only if the machine is marked for deletion. -/
  deleted : ∀ name binding, before.serverBindings.get? name = some binding →
    after.serverBindings.get? name = none → machine.isDeleting = true
  /-- New bindings are held by the machine. -/
  created : ∀ name binding, before.serverBindings.get? name = none →
    after.serverBindings.get? name = some binding → binding.holder = machine.key
  /-- There is at most one of them. -/
  one : ∀ name binding other another,
    before.serverBindings.get? name = none → after.serverBindings.get? name = some binding →
    before.serverBindings.get? other = none → after.serverBindings.get? other = some another →
      name = other

/-- Of a store nothing differs but a machine and bindings that it holds. -/
structure Confined (machine : MetalMachine) (before after : Store) : Prop where
  /-- Servers, classes, owner machines and clusters are as they were, and whether bindings can be
  created. -/
  frame : after = { before with
    version := after.version
    nextUid := after.nextUid
    bindingCreates := after.bindingCreates
    serverBindings := after.serverBindings
    metalMachines := after.metalMachines }
  /-- Other machines are as they were. -/
  machines : ∀ key, key ≠ machine.key →
    after.metalMachines.get? key = before.metalMachines.get? key
  /-- The machine is there with all that others decide; it goes only if it is marked for
  deletion. -/
  own : (∃ last, after.metalMachines.get? machine.key = some last ∧ last.Retains machine) ∨
    after.metalMachines.get? machine.key = none ∧ machine.isDeleting = true
  /-- No bindings differ but those of the machine. -/
  bindings : Rebinds machine before after
  /-- No more than one binding was created. -/
  creates : after.bindingCreates ≤ before.bindingCreates + 1

variable {machine copy : MetalMachine} {before store after : Store} {world : Surroundings}
  {nodes nodes' : Nodes} {now : Timestamp} {server : String}

theorem MetalMachine.Retains.refl (machine : MetalMachine) : machine.Retains machine :=
  ⟨rfl, rfl, rfl, fun _ _ => rfl⟩

theorem Store.Rebinds.of_eq (same : after.serverBindings = before.serverBindings) :
    Rebinds machine before after where
  others name binding bound _ := by
    rw [same]
    exact bound
  unchanged name binding later bound found := by
    rw [same] at found
    exact Option.some.inj (found.symm.trans bound)
  deleted name binding bound gone := by
    rw [same] at gone
    exact nomatch bound.symm.trans gone
  created name binding free bound := by
    rw [same] at bound
    exact nomatch free.symm.trans bound
  one name binding _ _ free bound _ _ := by
    rw [same] at bound
    exact nomatch free.symm.trans bound

theorem Confined.refl (found : store.metalMachines.get? machine.key = some machine) :
    Confined machine store store :=
  ⟨rfl, fun _ _ => rfl, .inl ⟨machine, found, .refl machine⟩, .of_eq rfl, Nat.le_succ _⟩

/-! ## Releases -/

section

variable (deleting : machine.isDeleting = true)

include deleting

theorem Relieves.confined (found : before.metalMachines.get? machine.key = some machine)
    (relieves : Relieves machine.key before after) : Confined machine before after := by
  have old : ∀ {name binding}, before.serverBindings.get? name = none →
      ¬after.serverBindings.get? name = some binding :=
    fun free bound => nomatch free.symm.trans (relieves.old _ _ bound)
  have rebinds : Rebinds machine before after := by
    constructor
    case others =>
      intro name binding bound other
      exact relieves.others name binding bound
        (Bool.eq_false_iff.2 (mt ServerBinding.isHeldBy_iff.1 other))
    case unchanged =>
      exact fun name _ later bound found =>
        Option.some.inj ((relieves.old name later found).symm.trans bound)
    case deleted => exact fun _ _ _ _ => deleting
    case created => exact fun _ _ free bound => absurd bound (old free)
    case one => exact fun _ _ _ _ free bound _ _ => absurd bound (old free)
  constructor
  case frame => rw [relieves.frame]
  case machines => exact fun key _ => congrArg (·.get? key) relieves.metalMachines
  case own => exact .inl ⟨machine, relieves.metalMachines ▸ found, .refl machine⟩
  case bindings => exact rebinds
  case creates =>
    rw [relieves.frame]
    exact Nat.le_succ _

theorem Dismisses.confined (dismisses : Dismisses machine before after) :
    Confined machine before after := by
  constructor
  case frame => rw [dismisses.frame]
  case machines => exact dismisses.others
  case own =>
    have own := dismisses.own
    split at own
    · exact .inr ⟨own, deleting⟩
    · refine .inl ⟨_, own, rfl, ?_, rfl, fun _ stays => nomatch deleting.symm.trans stays⟩
      simp [MetalMachine.otherFinalizers]
  case bindings => exact .of_eq (by rw [dismisses.frame])
  case creates =>
    rw [dismisses.frame]
    exact Nat.le_succ _

/-- A machine that is marked for deletion and was let go already is left alone. -/
theorem machinePass_unguarded (found : world.store.metalMachines.get? machine.key = some machine)
    (unguarded : machine.hasFinalizer = false) :
    ((machinePass machine.key).run world).2.store = world.store := by
  unfold machinePass
  rw [Pass.run_get_bind _ world fun _ => rfl, found]
  change ((currentMachinePass machine.key machine).run (world.seeing machine)).2.store = world.store
  unfold currentMachinePass
  rw [if_pos deleting, if_neg (Bool.eq_false_iff.1 unguarded)]
  rfl

end

/-! ## Work -/

theorem unbound_of_offer {className : String} (offered : store.offer className = .ok (some server)) :
    store.serverBindings.get? server = none := by
  have first : ∃ candidates, store.tryFirst candidates = .ok (some server) := by
    unfold offer at offered
    split at offered
    · exact nomatch offered
    · split at offered
      · exact nomatch offered
      · exact ⟨_, offered⟩
  obtain ⟨candidates, tried⟩ := first
  unfold tryFirst at tried
  split at tried
  · obtain ⟨candidate, chosen, rfl⟩ := Option.map_eq_some_iff.1 (Except.ok.inj tried)
    have fits := List.find?_some chosen
    exact Option.isNone_iff_eq_none.1 (Bool.and_eq_true_iff.1 fits).2
  · split at tried <;> exact nomatch tried

/-- Work creates at most one binding. -/
theorem Works.creates (works : Works store nodes now machine copy after nodes') :
    after = store ∨ ∃ server reference, store.serverBindings.get? server = none ∧
      after = store.withCreated (claim machine server reference) := by
  cases works with
  | invalid | refused | unserved | waits | reports => exact .inl rfl
  | claims _ free => exact .inr ⟨_, _, unbound_of_mayHold free, rfl⟩
  | allocates _ _ _ offered reference => exact .inr ⟨_, reference, unbound_of_offer offered, rfl⟩

/-- What a machine asks for is the same but for the server and the provider ID, and a server that was
named is the same. -/
def MetalMachineSpec.Completes (last spec : MetalMachineSpec) : Prop :=
  last = { spec with serverRef := last.serverRef, providerId := last.providerId } ∧
    (spec.serverRef.isSome = true → last.serverRef = spec.serverRef)

theorem MetalMachine.completes_holding (machine : MetalMachine) (server : String) :
    (machine.holding server).spec.Completes machine.spec := by
  have spec_eq : (machine.holding server).spec = { machine.spec with
      serverRef := machine.spec.serverRef.or (some (.ofName server))
      providerId := some (providerIdFor server) } := by
    rw [holding, spec_prepared]
  rw [spec_eq]
  exact ⟨rfl, fun named => Option.or_of_isSome named⟩

theorem Works.spec (works : Works store nodes now machine copy after nodes') :
    copy.spec.Completes machine.spec := by
  cases works with
  | invalid =>
      have same : machine.addFinalizer.reportInvalid.spec = machine.spec :=
        machine.spec_addFinalizer
      rw [same]
      exact ⟨rfl, fun _ => rfl⟩
  | refused | claims | unserved =>
      rw [machine.spec_prepared]
      exact ⟨rfl, fun _ => rfl⟩
  | allocates | waits | reports => exact machine.completes_holding _

theorem MetalMachine.otherFinalizers_addFinalizer (machine : MetalMachine) :
    machine.addFinalizer.otherFinalizers = machine.otherFinalizers := by
  obtain ⟨names, own, _, others⟩ := machine.finalizers_addFinalizer
  rw [otherFinalizers, own]
  exact others

/-- A copy that is written back after work on it retains what others decide. -/
theorem Works.retains (works : Works store nodes now machine copy after nodes')
    (version : Option String) :
    ({ copy with metadata.resourceVersion := version } : MetalMachine).Retains machine where
  metadata := by
    change { copy.metadata with resourceVersion := version } = _
    rw [works.metadata, machine.metadata_addFinalizer]
  finalizers := by
    rw [← machine.otherFinalizers_addFinalizer, MetalMachine.otherFinalizers,
      MetalMachine.otherFinalizers, ← works.metadata]
  spec := works.spec.1
  serverRef named _ := works.spec.2 named

/-- A binding that is created for a machine is the only one that is new. -/
theorem Store.Rebinds.of_created {serverClass : Option Reference}
    (named : machine.metadata.name.isSome = true)
    (free : before.serverBindings.get? server = none)
    (same : after.serverBindings =
      (before.withCreated (claim machine server serverClass)).serverBindings) :
    Rebinds machine before after := by
  have cases_of : ∀ {name binding}, after.serverBindings.get? name = some binding →
      name = server ∧ binding.holder = machine.key ∨
        before.serverBindings.get? name = some binding := by
    intro name binding bound
    rw [same] at bound
    rcases Dict.get?_insert_eq_some.1 bound with ⟨rfl, rfl⟩ | ⟨_, bound⟩
    · exact .inl ⟨rfl, holder_claim named name serverClass⟩
    · exact .inr bound
  have stays : ∀ {name binding}, before.serverBindings.get? name = some binding →
      after.serverBindings.get? name = some binding := by
    intro name binding bound
    rw [same]
    refine Dict.get?_insert_eq_some.2 (.inr ⟨?_, bound⟩)
    rintro rfl
    exact nomatch free.symm.trans bound
  constructor
  case others => exact fun _ _ bound _ => stays bound
  case unchanged =>
    exact fun _ _ _ bound found => Option.some.inj (found.symm.trans (stays bound))
  case deleted => exact fun _ _ bound gone => nomatch gone.symm.trans (stays bound)
  case created =>
    intro name binding unbound bound
    rcases cases_of bound with ⟨_, own⟩ | old
    · exact own
    · exact nomatch unbound.symm.trans old
  case one =>
    intro name binding other another unbound bound unbound_other bound_other
    rcases cases_of bound with ⟨rfl, _⟩ | old
    · rcases cases_of bound_other with ⟨rfl, _⟩ | old
      · rfl
      · exact nomatch unbound_other.symm.trans old
    · exact nomatch unbound.symm.trans old

/-! ## Commits -/

section

variable {key : ObjectKey} (other : key ≠ copy.key)

include other

theorem Store.updateMetalMachine_others (store : Store) :
    (store.updateMetalMachine copy).2.metalMachines.get? key = store.metalMachines.get? key := by
  have change := store.machineChange copy
  generalize store.updateMetalMachine copy = ended at change ⊢
  obtain ⟨reply, after⟩ := ended
  cases change with
  | gone | stale => rfl
  | removed => exact Dict.get?_erase_of_ne other _
  | written => exact Dict.get?_insert_of_ne other _ _

theorem Store.updateMetalMachineStatus_others (store : Store) (status : MetalMachineStatus) :
    (store.updateMetalMachineStatus copy.key status).2.metalMachines.get? key =
      store.metalMachines.get? key := by
  have change := store.machineStatusChange copy.key status
  generalize store.updateMetalMachineStatus copy.key status = ended at change ⊢
  obtain ⟨reply, after⟩ := ended
  cases change with
  | gone => rfl
  | changed => exact Dict.get?_insert_of_ne other _ _

theorem commitMachineStatus_others (world : Surroundings) :
    ((commitMachineStatus machine copy).run world).2.store.metalMachines.get? key =
      world.store.metalMachines.get? key := by
  unfold commitMachineStatus
  split
  · rfl
  · rw [Pass.run_call_bind]
    split
    all_goals exact updateMetalMachineStatus_others other world.store copy.currentStatus

/-- A commit writes no other machine. -/
theorem commitMachine_others (world : Surroundings) :
    ((commitMachine machine copy).run world).2.store.metalMachines.get? key =
      world.store.metalMachines.get? key := by
  unfold commitMachine
  split
  · have updates := updateMetalMachine_others other world.store
    rw [Pass.run_call_bind]
    split
    · exact updates
    · exact (commitMachineStatus_others other _).trans updates
  · exact commitMachineStatus_others other world

theorem withCommit_others (work : MetalMachine → Pass (Except PassError Outcome × MetalMachine))
    {result : Except PassError Outcome} {now : Surroundings}
    (worked : (work machine).run world = ((result, copy), now)) :
    ((withCommit machine work).run world).2.store.metalMachines.get? key =
      now.store.metalMachines.get? key := by
  have commits : ((commitMachine machine copy).run now).2.store.metalMachines.get? key =
      now.store.metalMachines.get? key := commitMachine_others other now
  match committed : (commitMachine machine copy).run now with
  | (reply, later) =>
  rw [committed] at commits
  rw [withCommit_run worked committed]
  exact commits

end

/-! ## Passes -/

/-- Work that is committed is confined. -/
theorem Works.confined (works : Works before nodes now machine copy store nodes')
    (named : machine.metadata.name.isSome = true) (commits : Commits machine copy store after)
    (others : ∀ key, key ≠ machine.key →
      after.metalMachines.get? key = before.metalMachines.get? key) :
    Confined machine before after := by
  have same_bindings : after.serverBindings = store.serverBindings := by rw [commits.frame]
  have same_creates : after.bindingCreates = store.bindingCreates := by rw [commits.frame]
  obtain ⟨version, own⟩ := commits.own
  have kept : ∃ last, after.metalMachines.get? machine.key = some last ∧ last.Retains machine :=
    ⟨_, own, works.retains version⟩
  rcases works.creates with rfl | ⟨server, reference, free, rfl⟩
  · refine ⟨?_, others, .inl kept, .of_eq same_bindings, ?_⟩
    · rw [commits.frame]
    · rw [same_creates]
      exact Nat.le_succ _
  · refine ⟨?_, others, .inl kept, .of_created named free same_bindings, ?_⟩
    · rw [commits.frame]
      rfl
    · rw [same_creates]
      exact Nat.le_refl _

section

variable (found : world.store.metalMachines.get? machine.key = some machine)

include found

/-- A pass that does not release its machine writes no other one. -/
theorem machinePass_others (stays : machine.isDeleting = false) (key : ObjectKey)
    (other : key ≠ machine.key) :
    ((machinePass machine.key).run world).2.store.metalMachines.get? key =
      world.store.metalMachines.get? key := by
  match gated : ((gates machine.key machine).run.run (world.seeing machine)).1 with
  | .error error =>
      rw [machinePass_run_of_stays found stays gated]
      rfl
  | .ok (.closed reason) =>
      rw [machinePass_run_of_stays found stays gated]
      rfl
  | .ok (.passed cluster) =>
      have drafts := allocate_drafts machine cluster (world.seeing machine)
      rw [machinePass_run_of_stays found stays gated]
      match worked : (allocate machine cluster).run (world.seeing machine) with
      | ((result, copy), now) =>
      rw [worked] at drafts
      have other_copy : key ≠ copy.key := by
        rw [key_eq_of_metadata drafts.metadata]
        exact other
      have kept := withCommit_others other_copy (allocate · cluster) worked
      exact kept.trans (congrArg (·.get? key) drafts.metalMachines)

/-- A pass over a machine writes nothing but the machine and bindings that it holds. -/
theorem machinePass_confined (bindings : world.store.NamesBindings)
    (named : machine.metadata.name.isSome = true) :
    Confined machine world.store ((machinePass machine.key).run world).2.store := by
  cases deleting : machine.isDeleting with
  | false =>
      by_cases admitted : world.store.Admits machine
      · obtain ⟨copy, store, works, commits⟩ :=
          machinePass_admitted found deleting bindings admitted
        exact works.confined named commits (machinePass_others found deleting)
      · rw [(machinePass_shut found deleting admitted).1]
        exact .refl found
  | true =>
      cases guarded : machine.hasFinalizer with
      | false =>
          rw [machinePass_unguarded deleting found guarded]
          exact .refl found
      | true =>
          rcases machinePass_leaving deleting guarded bindings found with
            dismissing | ⟨relieving, _⟩
          · exact dismissing.dismisses.confined deleting
          · exact relieving.relieves.confined deleting found

end

/-- A machine that wants a server of a class and that somebody else holds back, too. -/
def lodger : MetalMachine where
  metadata := { (Laboratory.machine "m" {}).metadata with
    finalizers := some ["keeper"]
    resourceVersion := some "4"
    uid := some (Text.uuid 0) }
  spec := { serverClassRef := some (.ofName "pool") }

/-- A store in which another machine holds a server. -/
def shared : Store :=
  ((Laboratory.store ["s"]).addServerBinding
    (claim (Laboratory.machine "other" {}) "x" none)).addMetalMachine lodger

/-- An allocator that takes the server of the other machine for that of the machine. -/
def slandered : Surroundings :=
  Laboratory.surroundings shared (({} : Index).applyBinding (claim lodger "x" none))

/-- The machine gets a server of its own, and the other one keeps its server. -/
theorem machinePass_confined_slandered :
    slandered.store.metalMachines.get? lodger.key = some lodger ∧
    slandered.store.NamesBindings ∧ lodger.metadata.name.isSome = true ∧
    Confined lodger slandered.store ((machinePass lodger.key).run slandered).2.store ∧
    (((machinePass lodger.key).run slandered).2.store.serverBindings.get? "s").any
      (fun binding => binding.isHeldBy lodger.key) = true := by
  have named : slandered.store.NamesBindings := namesBindings_of_all (by decide +kernel)
  have found : slandered.store.metalMachines.get? lodger.key = some lodger := rfl
  exact ⟨found, named, rfl, machinePass_confined found named rfl, by decide +kernel⟩

end BareMetal
