import BareMetal.Proofs.Claim.Committing
import BareMetal.Proofs.Selection

/-!
# When a machine is refused

A pass over a machine that passed the gates fails only with a reason that the store gives: the
server that the machine names is held by another, missing or not accepted, or the class that it
turns to is missing or malformed.  Each reason is an error, and then no binding is touched.  All
else that can go wrong is waited for, and the commit does not fail.
-/

namespace BareMetal

open Store

/-- The errors that a store has for a machine. -/
inductive Store.Denies (store : Store) (machine : MetalMachine) : PassError → Prop
  /-- Another machine holds the server that the machine names. -/
  | held {reference : Reference} {binding : ServerBinding}
      (named : machine.spec.serverRef = some reference)
      (bound : store.serverBindings.get? reference.name = some binding)
      (other : binding.holder ≠ machine.key) :
      Denies store machine (.serverAlreadyClaimed reference.name binding.holder)
  /-- That server has no binding and is missing. -/
  | missing {reference : Reference} (named : machine.spec.serverRef = some reference)
      (unbound : store.serverBindings.get? reference.name = none)
      (gone : store.servers.get? reference.name = none) :
      Denies store machine (.store (.notFound ("Server " ++ reference.name)))
  /-- That server has no binding and is not accepted. -/
  | unaccepted {reference : Reference} {server : Server}
      (named : machine.spec.serverRef = some reference)
      (unbound : store.serverBindings.get? reference.name = none)
      (found : store.servers.get? reference.name = some server)
      (unaccepted : server.spec.accepted = false) :
      Denies store machine (.serverNotAccepted reference.name)
  /-- The machine names no server and holds none, and its class is missing. -/
  | classless {reference : Reference} (nameless : machine.spec.serverRef = none)
      (classed : machine.spec.serverClassRef = some reference)
      (nothing : store.HoldsNothing machine.key)
      (gone : store.serverClasses.get? reference.name = none) :
      Denies store machine (.store (.notFound ("ServerClass " ++ reference.name)))
  /-- The machine names no server and holds none, and its class has a malformed selector. -/
  | malformed {reference : Reference} {serverClass : ServerClass} {fault : SelectorFault}
      (nameless : machine.spec.serverRef = none)
      (classed : machine.spec.serverClassRef = some reference)
      (nothing : store.HoldsNothing machine.key)
      (found : store.serverClasses.get? reference.name = some serverClass)
      (first : serverClass.spec.FirstFault fault) :
      Denies store machine (.malformedSelector fault)

/-- How something done for a machine ends: with the error that the store has for the machine, which
leaves all bindings as they are, or without an error. -/
structure Answers (machine : MetalMachine) (before : Store) (result : Except PassError Outcome)
    (after : Store) : Prop where
  /-- There is an error exactly if the store has one for the machine, and it is that one. -/
  fails_iff : ∀ error, result = .error error ↔ before.Denies machine error
  /-- An error leaves all bindings as they are. -/
  unharmed : ∀ error, before.Denies machine error → after.serverBindings = before.serverBindings
  /-- Otherwise there is nothing left to do, or something to wait for. -/
  goes_on : (∀ error, ¬before.Denies machine error) →
    result = .ok .done ∨ ∃ reason, result = .ok (.requeue reason)

variable {machine copy : MetalMachine} {world : Surroundings} {store before after : Store}
  {reference : Reference} {error : PassError}

section

variable {α : Type} {check : Except PassError α}
  (denies_iff : ∀ other, before.Denies machine other ↔ check = .error other)

include denies_iff

/-- A check that fails for the errors of the store gives the error. -/
theorem Answers.of_failed (failed : check = .error error)
    (same : after.serverBindings = before.serverBindings) :
    Answers machine before (.error error) after where
  fails_iff other := by
    rw [denies_iff, failed]
    exact ⟨fun told => congrArg _ (Except.error.inj told),
      fun told => congrArg _ (Except.error.inj told)⟩
  unharmed _ _ := same
  goes_on undenied := absurd failed (mt (denies_iff error).2 (undenied error))

theorem not_denies_of_passed {value : α} (passed : check = .ok value) (error : PassError) :
    ¬before.Denies machine error := by
  rw [denies_iff, passed]
  exact nofun

end

theorem Answers.of_ok {outcome : Outcome} (undenied : ∀ error, ¬before.Denies machine error) :
    Answers machine before (.ok outcome) after where
  fails_iff error := iff_of_false nofun (undenied error)
  unharmed error denied := absurd denied (undenied error)
  goes_on _ := by
    cases outcome with
    | done => exact .inl rfl
    | requeue reason => exact .inr ⟨reason, rfl⟩

/-- Trying to report a machine ready does not fail. -/
theorem reportReady_answers (undenied : ∀ error, ¬before.Denies machine error)
    (cluster : ObjectKey) (server : String) :
    Answers machine before ((reportReady copy cluster server).run world).1.1 after := by
  cases bound : world.store.serverBindings.get? server with
  | none =>
      rw [reportReady_run_of_unbound world bound]
      exact .of_ok undenied
  | some binding =>
      cases ready : binding.isReady with
      | false =>
          rw [reportReady_run_of_unready world bound ready]
          exact .of_ok undenied
      | true =>
          rw [reportReady_run_of_ready world bound ready]
          exact .of_ok undenied

/-! ## A machine that names a server -/

section

variable (accepts : store.createFailure = none) (named : machine.spec.serverRef = some reference)

include accepts named

theorem denies_iff_of_named (error : PassError) :
    store.Denies machine error ↔ store.mayHold machine.key reference.name = .error error := by
  unfold mayHold
  constructor
  · intro denied
    cases denied with
    | held names bound other =>
        cases named.symm.trans names
        simp [bound, mt ServerBinding.isHeldBy_iff.1 other]
    | missing names unbound gone =>
        cases named.symm.trans names
        simp [unbound, gone]
    | unaccepted names unbound found unaccepted =>
        cases named.symm.trans names
        simp [unbound, found, Server.isAccepted, unaccepted]
    | classless nameless => exact nomatch named.symm.trans nameless
    | malformed nameless => exact nomatch named.symm.trans nameless
  · cases bound : store.serverBindings.get? reference.name with
    | some binding =>
        cases held : binding.isHeldBy machine.key with
        | true => simp [held]
        | false =>
            have other : binding.holder ≠ machine.key :=
              mt ServerBinding.isHeldBy_iff.2 (by simp [held])
            rintro failed
            simp only [held, Bool.false_eq_true, if_false] at failed
            cases failed
            exact .held named bound other
    | none =>
        cases found : store.servers.get? reference.name with
        | none =>
            rintro ⟨⟩
            exact .missing named bound found
        | some server =>
            cases accepted : server.isAccepted with
            | true => simp [accepted, accepts]
            | false =>
                intro failed
                simp only [accepted, Bool.not_false, if_true] at failed
                cases failed
                exact .unaccepted named bound found accepted

end

theorem allocateNamed_answers (accepts : world.store.createFailure = none)
    (named : machine.spec.serverRef = some reference) (cluster : ObjectKey) :
    Answers machine world.store
      ((allocateNamed machine.prepared cluster reference.name).run world).1.1
      ((allocateNamed machine.prepared cluster reference.name).run world).2.store := by
  have names : machine.prepared.namedServer? = some reference.name :=
    namedServer?_of_serverRef (machine.spec_prepared ▸ named)
  obtain ⟨memory, ensured⟩ := ensureNamed_run names world
  rw [machine.key_prepared] at ensured
  have denies_iff := denies_iff_of_named accepts named
  unfold allocateNamed
  match may : world.store.mayHold machine.key reference.name with
  | .error error =>
      rw [may] at ensured
      rw [Pass.run_bind_of ensured]
      exact .of_failed denies_iff may rfl
  | .ok holds =>
      have undenied := not_denies_of_passed denies_iff may
      rw [may] at ensured
      cases holds with
      | false =>
          rw [Pass.run_bind_of ensured]
          exact .of_ok undenied
      | true =>
          rw [Pass.run_bind_of ensured]
          exact reportReady_answers undenied cluster _

/-! ## A machine that turns to a class -/

section

variable (nameless : machine.spec.serverRef = none)
  (classed : machine.spec.serverClassRef = some reference)

include nameless classed

theorem denies_iff_of_class (accepts : store.createFailure = none)
    (nothing : store.HoldsNothing machine.key) (error : PassError) :
    store.Denies machine error ↔ store.offer reference.name = .error error := by
  unfold offer
  constructor
  · intro denied
    cases denied with
    | held names | missing names | unaccepted names => exact nomatch nameless.symm.trans names
    | classless _ turns _ gone =>
        cases classed.symm.trans turns
        simp [gone]
    | malformed _ turns _ found first =>
        cases classed.symm.trans turns
        simp [found, qualifiedServers_eq_error_iff.2 first]
  · cases found : store.serverClasses.get? reference.name with
    | none =>
        rintro ⟨⟩
        exact .classless nameless classed nothing found
    | some serverClass =>
        dsimp only
        cases qualified : qualifiedServers serverClass.spec
            (serverClass.availableServers.filterMap store.servers.get?) with
        | error fault =>
            rintro ⟨⟩
            exact .malformed nameless classed nothing found
              (qualifiedServers_eq_error_iff.1 qualified)
        | ok candidates =>
            dsimp only
            rw [tryFirst_of_accepts accepts]
            exact nofun

theorem allocateFromClass_answers (accepts : world.store.createFailure = none)
    (cluster : ObjectKey) : Answers machine world.store
      ((allocateFromClass machine.prepared cluster).run world).1.1
      ((allocateFromClass machine.prepared cluster).run world).2.store := by
  have classed_copy : machine.prepared.spec.serverClassRef = some reference := by
    rw [machine.spec_prepared, classed]
  unfold allocateFromClass
  cases held : world.held machine.prepared.key with
  | cons binding rest =>
      have holds : ¬world.store.HoldsNothing machine.key := by
        intro nothing
        rw [machine.key_prepared, Surroundings.held_eq_nil_iff.2 nothing] at held
        exact nomatch held
      have undenied : ∀ error, ¬world.store.Denies machine error := by
        intro error denied
        cases denied with
        | held names | missing names | unaccepted names => exact nomatch nameless.symm.trans names
        | classless _ _ nothing | malformed _ _ nothing => exact holds nothing
      obtain ⟨memory, ran⟩ := serverFromClass_run_of_held held
      rw [Pass.run_bind_of ran]
      exact reportReady_answers undenied cluster _
  | nil =>
      have nothing := Surroundings.held_eq_nil_iff.1 held
      obtain ⟨memory, ran⟩ := serverFromClass_run_of_holdsNothing classed_copy nothing
      rw [machine.key_prepared] at nothing
      have denies_iff := denies_iff_of_class nameless classed accepts nothing
      rw [Pass.run_bind_of ran]
      match offered : world.store.offer reference.name with
      | .error error => exact .of_failed denies_iff offered rfl
      | .ok found =>
          have undenied := not_denies_of_passed denies_iff offered
          cases found with
          | none => exact .of_ok undenied
          | some server => exact reportReady_answers undenied cluster server

end

/-! ## The whole pass -/

theorem allocate_answers (accepts : world.store.createFailure = none) (machine : MetalMachine)
    (cluster : ObjectKey) : Answers machine world.store ((allocate machine cluster).run world).1.1
      ((allocate machine cluster).run world).2.store := by
  have same_spec := machine.spec_addFinalizer
  unfold allocate
  dsimp only
  split
  · rename_i nameless classless
    rw [same_spec] at nameless classless
    refine .of_ok fun error denied => ?_
    cases denied with
    | held names | missing names | unaccepted names => exact nomatch nameless.symm.trans names
    | classless _ classed | malformed _ classed => exact nomatch classless.symm.trans classed
  · rename_i named
    rw [same_spec] at named
    exact allocateNamed_answers accepts named cluster
  · rename_i nameless classed
    rw [same_spec] at nameless classed
    exact allocateFromClass_answers nameless classed accepts cluster

/-- A pass over a machine that passed the gates fails exactly with the error that the store has for
the machine. -/
theorem machinePass_answers
    (found : world.store.metalMachines.get? machine.key = some machine)
    (stays : machine.isDeleting = false) (accepts : world.store.createFailure = none)
    (admitted : world.store.Admits machine) :
    Answers machine world.store ((machinePass machine.key).run world).1
      ((machinePass machine.key).run world).2.store := by
  obtain ⟨cluster, gated⟩ := (gates_passed_iff machine (world.seeing machine)).2 admitted
  have accepts : (world.seeing machine).store.createFailure = none := accepts
  have answers := allocate_answers accepts machine cluster
  have drafts := allocate_drafts machine cluster (world.seeing machine)
  rw [machinePass_run_of_stays found stays gated]
  match worked : (allocate machine cluster).run (world.seeing machine) with
  | ((result, copy), now) =>
  rw [worked] at answers drafts
  have found : (world.seeing machine).store.metalMachines.get? machine.key = some machine := found
  obtain ⟨stored, ran, commits⟩ := withCommit_commits found stays (allocate · cluster) worked
    drafts.metalMachines drafts.metadata drafts.status
  dsimp only
  rw [ran]
  constructor
  case fails_iff => exact answers.fails_iff
  case unharmed =>
    intro error denied
    have same_bindings : stored.serverBindings = now.store.serverBindings := by rw [commits.frame]
    exact same_bindings.trans (answers.unharmed error denied)
  case goes_on => exact answers.goes_on

/-- A store in which another machine holds a server that is gone, and a machine names that server
and a class that is missing. -/
def bereft : Store :=
  ((Laboratory.store []).addServerBinding
    (claim (Laboratory.machine "other" {}) "s" none)).addMetalMachine
      (Laboratory.machine "m"
        { serverRef := some (.ofName "s"), serverClassRef := some (.ofName "gone") })

/-- That machine as it is stored. -/
def bereftMachine : MetalMachine where
  metadata := { (Laboratory.machine "m" {}).metadata with
    resourceVersion := some "3"
    uid := some (Text.uuid 0) }
  spec := { serverRef := some (.ofName "s"), serverClassRef := some (.ofName "gone") }

/-- The pass fails because of the other machine, and not because anything is missing. -/
theorem machinePass_answers_bereft :
    bereft.metalMachines.get? bereftMachine.key = some bereftMachine ∧
    bereftMachine.isDeleting = false ∧ bereft.createFailure = none ∧
    bereft.Admits bereftMachine ∧
    (∀ error, ((machinePass bereftMachine.key).run (Laboratory.surroundings bereft {})).1 =
      .error error ↔ bereft.Denies bereftMachine error) ∧
    ((machinePass bereftMachine.key).run (Laboratory.surroundings bereft {})).1 =
      .error (.serverAlreadyClaimed "s" (Laboratory.key "other")) := by
  have admitted : bereft.Admits bereftMachine :=
    ⟨_, _, _, _, rfl, rfl, rfl, rfl, rfl, rfl, rfl⟩
  have answers : Answers bereftMachine (Laboratory.surroundings bereft {}).store _ _ :=
    machinePass_answers rfl rfl rfl admitted
  have denied : bereft.Denies bereftMachine
      (.serverAlreadyClaimed "s" (Laboratory.key "other")) :=
    @Denies.held bereft bereftMachine (.ofName "s") _ rfl rfl (by decide +kernel)
  exact ⟨rfl, rfl, rfl, admitted, answers.fails_iff, (answers.fails_iff _).2 denied⟩

end BareMetal
