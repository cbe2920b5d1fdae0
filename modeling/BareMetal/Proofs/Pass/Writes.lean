import BareMetal.Pass.Commit
import BareMetal.Proofs.Pass.Secures
import BareMetal.Proofs.Store.Writes

/-!
# Writes of a pass

What is to be shown for each call of a pass that writes, one case for each way in which the store
may answer it, and what it takes to write a changed copy of a machine or a binding back.
-/

namespace BareMetal

variable {α : Type} {terms : Terms Store} {store : Store}

/-- The effect of a write is within the terms. -/
def Terms.Permits (terms : Terms Store) (before after : Store) : Prop :=
  terms.invariant after ∧ terms.keeps before after

/-- What a call may change and reply is what there is to secure. -/
theorem Pass.secures_change_bind {goal : α → Store → Prop} {call : StoreCall}
    {rest : call.Reply → Pass α} {Change : Store → call.Reply → Store → Prop}
    (changes : ∀ now : Store, Change now (now.perform call).1 (now.perform call).2)
    (secures : ∀ now, terms.invariant now → terms.rely store now → ∀ reply next,
      Change now reply next → terms.Permits now next ∧ (rest reply).Secures terms goal next) :
    (Pass.call call >>= rest).Secures terms goal store := by
  refine secures_call_bind.2 fun now sound acted => ?_
  obtain ⟨permits, secured⟩ := secures now sound acted _ _ (changes now)
  exact ⟨permits.1, permits.2, secured⟩

theorem Terms.permits_self (sound : terms.invariant store) : terms.Permits store store :=
  ⟨sound, terms.keeps_refl store⟩

namespace Attempt

variable {goal : Except PassError α → Store → Prop}

/-- A binding is created, unless one is there or creating bindings is refused. -/
theorem secures_create_bind {binding : ServerBinding}
    {rest : Except StoreError ServerBinding → Attempt α}
    (created : ∀ now, terms.invariant now → terms.rely store now →
      now.serverBindings.get? (binding.metadata.name.getD "") = none →
        terms.Permits now (now.withCreated binding) ∧
          (rest (.ok (now.createdBinding binding))).Secures terms goal (now.withCreated binding))
    (taken : ∀ now, terms.invariant now → terms.rely store now → ∀ present,
      now.serverBindings.get? (binding.metadata.name.getD "") = some present → ∀ what,
        (rest (.error (.alreadyExists what))).Secures terms goal now)
    (refused : ∀ now, terms.invariant now → terms.rely store now → ∀ message,
      now.createFailure = some message →
        (rest (.error (.invalidRequest message))).Secures terms goal now) :
    ((Pass.call (.createServerBinding binding) :
      Attempt (Except StoreError ServerBinding)) >>= rest).Secures terms goal store := by
  refine Pass.secures_change_bind (fun now => now.creation binding) ?_
  intro now sound acted reply next creation
  cases creation with
  | refused fails => exact ⟨terms.permits_self sound, refused now sound acted _ fails⟩
  | taken found what => exact ⟨terms.permits_self sound, taken now sound acted _ found what⟩
  | created free => exact created now sound acted free

end Attempt

variable {goal : Except StoreError Unit → Store → Prop}

/-- The copy of a binding is written back if its status changed. -/
theorem commitBinding_secures {before after : ServerBinding}
    (unchanged : ∀ later, terms.invariant later → terms.rely store later →
      before.status = after.status → goal (.ok ()) later)
    (gone : ∀ later, terms.invariant later → terms.rely store later → ∀ what,
      goal (.error (.notFound what)) later)
    (written : ∀ now, terms.invariant now → terms.rely store now → ∀ present,
      now.serverBindings.get? after.anyName = some present →
        let next := now.withBinding after.anyName
          (now.bindingWithStatus present (after.status.getD {}))
        terms.Permits now next ∧
          ∀ later, terms.invariant later → terms.rely next later → goal (.ok ()) later) :
    (commitBinding before after).Secures terms goal store := by
  unfold commitBinding
  split
  · rename_i same
    exact Pass.secures_pure.2 fun later sound acted => unchanged later sound acted same
  · rw [← bind_pure (Pass.call (.updateServerBindingStatus after.anyName _))]
    refine Pass.secures_change_bind
      (fun now => now.bindingStatusChange after.anyName (after.status.getD {})) ?_
    intro now sound acted reply next change
    cases change with
    | gone what =>
        refine ⟨terms.permits_self sound, Pass.secures_pure.2 ?_⟩
        exact fun later sound_later acted_later =>
          gone later sound_later (terms.rely_trans acted acted_later) what
    | changed found =>
        obtain ⟨permits, ends⟩ := written now sound acted _ found
        exact ⟨permits, Pass.secures_pure.2 ends⟩

/-- The status of the copy of a machine is written back if it changed. -/
theorem commitMachineStatus_secures {before after : MetalMachine}
    (unchanged : ∀ later, terms.invariant later → terms.rely store later →
      before.status = after.status → goal (.ok ()) later)
    (gone : ∀ now, terms.invariant now → terms.rely store now →
      now.metalMachines.get? after.key = none → ∀ later, terms.invariant later →
        terms.rely now later → ∀ result, goal result later)
    (written : ∀ now, terms.invariant now → terms.rely store now → ∀ present,
      now.metalMachines.get? after.key = some present → before.status ≠ after.status →
        let next := now.withMachine after.key (now.machineWithStatus present after.currentStatus)
        terms.Permits now next ∧
          ∀ later, terms.invariant later → terms.rely next later → goal (.ok ()) later) :
    (commitMachineStatus before after).Secures terms goal store := by
  unfold commitMachineStatus
  split
  · rename_i same
    exact Pass.secures_pure.2 fun later sound acted => unchanged later sound acted same
  · rename_i differs
    refine Pass.secures_change_bind
      (fun now => now.machineStatusChange after.key after.currentStatus) ?_
    intro now sound acted reply next change
    cases change with
    | gone absent what =>
        refine ⟨terms.permits_self sound, Pass.secures_pure.2 ?_⟩
        exact fun later sound_later acted_later =>
          gone now sound acted absent later sound_later acted_later _
    | changed found =>
        obtain ⟨permits, ends⟩ := written now sound acted _ found differs
        exact ⟨permits, Pass.secures_pure.2 ends⟩

/-- The copy of a machine is written back: first what the store guards by version, then the
status. -/
theorem commitMachine_secures {before after : MetalMachine}
    (unchanged : before.bodyChanged after = false →
      (commitMachineStatus before after).Secures terms goal store)
    (gone : ∀ now, terms.invariant now → terms.rely store now →
      now.metalMachines.get? after.key = none → ∀ later, terms.invariant later →
        terms.rely now later → ∀ error, goal (.error error) later)
    (stale : ∀ now, terms.invariant now → terms.rely store now → ∀ stored,
      now.metalMachines.get? after.key = some stored →
        Store.isStale stored after.metadata.resourceVersion = true → ∀ later,
          terms.invariant later → terms.rely now later → ∀ what,
            goal (.error (.conflict what)) later)
    (removed : ∀ now, terms.invariant now → terms.rely store now → ∀ stored,
      now.metalMachines.get? after.key = some stored →
        Store.isStale stored after.metadata.resourceVersion = false →
          Store.isReleased (now.updatedMachine stored after) = true →
            terms.Permits now (now.withoutMachine after.key) ∧
              (commitMachineStatus before after).Secures terms goal (now.withoutMachine after.key))
    (written : ∀ now, terms.invariant now → terms.rely store now → ∀ stored,
      now.metalMachines.get? after.key = some stored →
        Store.isStale stored after.metadata.resourceVersion = false →
          Store.isReleased (now.updatedMachine stored after) = false →
            let next := now.withMachine after.key (now.updatedMachine stored after)
            terms.Permits now next ∧
              (commitMachineStatus before after).Secures terms goal next) :
    (commitMachine before after).Secures terms goal store := by
  unfold commitMachine
  split
  · refine Pass.secures_change_bind (fun now => now.machineChange after) ?_
    intro now sound acted reply next change
    cases change with
    | gone absent what =>
        refine ⟨terms.permits_self sound, Pass.secures_pure.2 ?_⟩
        exact fun later sound_later acted_later =>
          gone now sound acted absent later sound_later acted_later _
    | stale found changed what =>
        refine ⟨terms.permits_self sound, Pass.secures_pure.2 ?_⟩
        exact fun later sound_later acted_later =>
          stale now sound acted _ found changed later sound_later acted_later _
    | removed found current released => exact removed now sound acted _ found current released
    | written found current stays => exact written now sound acted _ found current stays
  · rename_i same
    exact unchanged (Bool.eq_false_iff.2 same)

theorem MetalMachine.bodyChanged_eq_false_iff {before after : MetalMachine} :
    before.bodyChanged after = false ↔
      before.metadata.finalizers = after.metadata.finalizers ∧ before.spec = after.spec := by
  simp only [bodyChanged, Bool.or_eq_false_iff, bne_eq_false_iff_eq]

/-- A machine that stays and that nobody else writes can only be written back. -/
theorem commitMachine_unrivalled_secures {before after : MetalMachine}
    (own : ∀ now, terms.rely store now → now.metalMachines.get? before.key = some before)
    (stays : before.isDeleting = false) (key_eq : after.key = before.key)
    (version_eq : after.metadata.resourceVersion = before.metadata.resourceVersion)
    (unchanged : before.bodyChanged after = false →
      (commitMachineStatus before after).Secures terms goal store)
    (written : ∀ now, terms.invariant now → terms.rely store now →
      let next := now.withMachine before.key (now.updatedMachine before after)
      terms.Permits now next ∧ (commitMachineStatus before after).Secures terms goal next) :
    (commitMachine before after).Secures terms goal store := by
  have stored_eq : ∀ now stored, terms.rely store now →
      now.metalMachines.get? after.key = some stored → stored = before := by
    intro now stored acted found
    rw [key_eq] at found
    exact Option.some.inj (found.symm.trans (own now acted))
  refine commitMachine_secures ?unchanged ?gone ?stale ?removed ?written
  case unchanged => exact unchanged
  case gone =>
    intro now _ acted absent
    rw [key_eq, own now acted] at absent
    cases absent
  case stale =>
    intro now _ acted stored found changed
    obtain rfl := stored_eq now stored acted found
    rw [version_eq, Store.isStale_self] at changed
    cases changed
  case removed =>
    intro now _ acted stored found _ released
    obtain rfl := stored_eq now stored acted found
    have deleting : stored.isDeleting = true := (Bool.and_eq_true_iff.1 released).1
    cases stays.symm.trans deleting
  case written =>
    intro now sound acted stored found _ _
    obtain rfl := stored_eq now stored acted found
    rw [key_eq]
    exact written now sound acted

end BareMetal
