import BareMetal.Proofs.Pass.Habits

/-!
# Passes that spare all bindings

Only a release deletes bindings.  All other parts of the passes spare them, and the bindings that
they create have names.
-/

namespace BareMetal

/-- A query that deletes no binding and creates none without a name. -/
def PassQuery.Spares : PassQuery → Prop
  | .store (.deleteServerBinding _) => False
  | .store (.createServerBinding binding) => binding.metadata.name.isSome = true
  | _ => True

/-- A pass that deletes no binding and creates none without a name. -/
abbrev Pass.Spares {α : Type} (pass : Pass α) : Prop := Program.AsksOnly PassQuery.Spares pass

/-- A pass that may fail, and that deletes no binding and creates none without a name. -/
abbrev Attempt.Spares {α : Type} (attempt : Attempt α) : Prop := attempt.AsksOnly PassQuery.Spares

variable {α : Type}

theorem PassQuery.IsPassive.spares {query : PassQuery} (passive : query.IsPassive) :
    query.Spares := by
  unfold PassQuery.Spares
  split
  · exact passive
  · exact passive.elim
  · trivial

theorem Pass.IsPassive.spares {pass : Pass α} (passive : pass.IsPassive) : pass.Spares :=
  Program.AsksOnly.weaken passive fun _ => PassQuery.IsPassive.spares

theorem Attempt.IsPassive.spares {attempt : Attempt α} (passive : attempt.IsPassive) :
    attempt.Spares :=
  Pass.IsPassive.spares passive

/-- A query that spares all bindings and does not ask the index. -/
def PassQuery.IsDirect : PassQuery → Prop
  | .bindingsFor _ | .machinesFor _ => False
  | query => query.Spares

/-- A pass that spares all bindings and does not ask the index. -/
abbrev Pass.IsDirect (pass : Pass α) : Prop := Program.AsksOnly PassQuery.IsDirect pass

/-- An attempt that spares all bindings and does not ask the index. -/
abbrev Attempt.IsDirect (attempt : Attempt α) : Prop := attempt.AsksOnly PassQuery.IsDirect

theorem PassQuery.IsDirect.spares {query : PassQuery} (direct : query.IsDirect) :
    query.Spares := by
  unfold PassQuery.IsDirect at direct
  split at direct
  · exact direct.elim
  · exact direct.elim
  · exact direct

theorem Pass.IsDirect.spares {pass : Pass α} (direct : pass.IsDirect) : pass.Spares :=
  Program.AsksOnly.weaken direct fun _ => PassQuery.IsDirect.spares

theorem PassQuery.IsPlain.direct {query : PassQuery} (plain : query.IsPlain) : query.IsDirect := by
  unfold PassQuery.IsDirect
  split
  · exact plain
  · exact plain
  · exact plain.passive.spares

theorem Pass.IsPlain.direct {pass : Pass α} (plain : pass.IsPlain) : pass.IsDirect :=
  Program.AsksOnly.weaken plain fun _ => PassQuery.IsPlain.direct

theorem Attempt.IsPlain.direct {attempt : Attempt α} (plain : attempt.IsPlain) :
    attempt.IsDirect :=
  Pass.IsPlain.direct plain

/-! ## Sparing as a habit -/

theorem Pass.spares_habit : Pass.Habit @Pass.Spares :=
  Pass.habit_asksOnly (fun _ plain => plain.passive.spares) (fun _ => trivial) (fun _ _ _ => rfl)
    fun _ => trivial

theorem Pass.direct_habit : Pass.Habit @Pass.IsDirect :=
  Pass.habit_asksOnly (fun _ => PassQuery.IsPlain.direct) (fun _ => trivial) (fun _ _ _ => rfl)
    fun _ => trivial

theorem claimFromClass_direct (machine : MetalMachine) (className : String) :
    (claimFromClass machine className).IsDirect :=
  Pass.direct_habit.claimFromClass machine className

theorem ensureNamed_direct (machine : MetalMachine) (server : String) :
    (ensureNamed machine server).IsDirect :=
  Pass.direct_habit.ensureNamed machine server

theorem finishMachine_direct (before after : MetalMachine) (result : Except PassError α) :
    (finishMachine before after result).IsDirect :=
  Pass.direct_habit.finishMachine before after result

/-- Only a machine that is marked for deletion has bindings deleted. -/
theorem currentMachinePass_spares {machine : MetalMachine} (stays : machine.isDeleting = false)
    (key : ObjectKey) : (currentMachinePass key machine).Spares := by
  refine Pass.spares_habit.currentMachinePass ?_ (fun deleting => ?_) key
  · exact fun key => (heldBindings_quiet key).passive.spares
  · exact nomatch stays.symm.trans deleting

theorem serverPass_spares (name : String) : (serverPass name).Spares :=
  Pass.spares_habit.serverPass (namingMachines_passive name).spares

end BareMetal
