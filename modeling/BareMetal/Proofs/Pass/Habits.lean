import BareMetal.Proofs.Pass.Passive

/-!
# Habits of passes

A habit is a property that goes from the parts of a pass to the whole: plain parts have it, one part
after another has it, and so has a claim that is told to the index as soon as it is made.
Allocating, healing and writing back are made of such parts and of looks for bindings and machines,
so they have every habit that the looks have.
-/

namespace BareMetal

/-- A property that goes from the parts of a pass to the whole. -/
structure Pass.Habit (holds : {α : Type} → Pass α → Prop) : Prop where
  /-- Plain passes have it. -/
  plain : ∀ {α : Type} {pass : Pass α}, pass.IsPlain → holds pass
  /-- One pass after another has it. -/
  bind : ∀ {α β : Type} {first : Pass β} {rest : β → Pass α},
    holds first → (∀ value, holds (rest value)) → holds (first >>= rest)
  /-- To write back what a machine asks for has it. -/
  update : ∀ machine : MetalMachine, holds (Pass.call (.updateMetalMachine machine))
  /-- A claim has it that is told to the index as soon as it is made. -/
  claims : ∀ {α : Type} {machine : MetalMachine} {server : String} {reference : Option Reference}
    {rest : Except StoreError ServerBinding → Pass α} {claimed : Pass α},
    (∀ binding, rest (.ok binding) = do
      Pass.learn (.bindingSeen binding)
      claimed) →
    holds claimed → (∀ error, holds (rest (.error error))) →
    holds (Pass.call (.createServerBinding (claim machine server reference)) >>= rest)

/-- To ask only what is allowed is a habit if plain queries are allowed, claims, telling of them, and
writing back what a machine asks for. -/
theorem Pass.habit_asksOnly {allowed : PassQuery → Prop}
    (plain : ∀ query : PassQuery, query.IsPlain → allowed query)
    (updates : ∀ machine, allowed (.store (.updateMetalMachine machine)))
    (creates : ∀ machine server reference,
      allowed (.store (.createServerBinding (claim machine server reference))))
    (tells : ∀ binding, allowed (.learn (.bindingSeen binding))) :
    Pass.Habit fun {α} (pass : Pass α) => pass.AsksOnly allowed where
  plain is_plain := Program.AsksOnly.weaken is_plain plain
  bind := Pass.asks_bind
  update machine := ⟨updates machine, fun _ => trivial⟩
  claims tells_first asks asks_failed := by
    refine Pass.asks_call_bind (creates _ _ _) fun reply => ?_
    cases reply with
    | ok binding =>
        rw [tells_first]
        exact Pass.asks_learn_bind (tells binding) asks
    | error error => exact asks_failed error

namespace Pass.Habit

variable {α β : Type} {holds : {α : Type} → Pass α → Prop} (habit : Pass.Habit holds)

include habit

/-! ## Attempts -/

theorem pure (value : α) : holds (Pure.pure value : Pass α) := habit.plain trivial

theorem attempt_bind {first : Attempt β} {rest : β → Attempt α} (holds_first : holds first.run)
    (holds_rest : ∀ value, holds (rest value).run) : holds (first >>= rest).run := by
  refine habit.bind holds_first fun result => ?_
  cases result with
  | ok value => exact holds_rest value
  | error error => exact habit.pure _

theorem call_bind {call : StoreCall} {rest : call.Reply → Pass α}
    (plain : (PassQuery.store call).IsPlain) (holds_rest : ∀ reply, holds (rest reply)) :
    holds (Pass.call call >>= rest) :=
  habit.bind (habit.plain ⟨plain, fun _ => trivial⟩) holds_rest

theorem attempt_call_bind {call : StoreCall} {rest : call.Reply → Attempt α}
    (plain : (PassQuery.store call).IsPlain) (holds_rest : ∀ reply, holds (rest reply).run) :
    holds ((Pass.call call : Attempt call.Reply) >>= rest).run :=
  habit.call_bind plain holds_rest

theorem attemptCall_bind {call : StoreCall} {rest : call.Result → Attempt α}
    (plain : (PassQuery.store call).IsPlain) (holds_rest : ∀ result, holds (rest result).run) :
    holds (Attempt.call call >>= rest).run :=
  habit.attempt_bind (habit.plain (Attempt.asks_attemptCall plain)) holds_rest

theorem count_bind {counter : Counter} {rest : Unit → Attempt α}
    (holds_rest : holds (rest ()).run) : holds ((Pass.count counter : Attempt Unit) >>= rest).run :=
  habit.attempt_bind (habit.plain ⟨trivial, fun _ => trivial⟩) fun _ => holds_rest

/-! ## Allocation -/

theorem claimFirst (machine : MetalMachine) (serverClass : Reference) (candidates : List Server) :
    holds (claimFirst machine serverClass candidates).run := by
  induction candidates with
  | nil => exact habit.pure _
  | cons server rest ih =>
      unfold BareMetal.claimFirst
      split
      · exact ih
      · refine habit.claims (fun _ => rfl) (habit.count_bind (habit.pure _)) fun error => ?_
        cases error with
        | alreadyExists what => exact habit.count_bind ih
        | _ => exact habit.pure _

theorem claimFromClass (machine : MetalMachine) (className : String) :
    holds (claimFromClass machine className).run := by
  refine habit.attemptCall_bind trivial fun serverClass => ?_
  refine habit.attempt_bind (habit.plain (presentServers_plain _)) fun servers => ?_
  split
  · exact habit.pure _
  · exact habit.claimFirst machine _ _

/-- Whatever holds of a look for the bindings of a machine holds of finding it a server. -/
theorem serverFromClass {machine : MetalMachine} (looks : holds (heldBindings machine.key).run) :
    holds (serverFromClass machine).run := by
  refine habit.attempt_bind looks fun held => ?_
  split
  · exact habit.pure _
  · split
    · exact habit.pure _
    · exact habit.claimFromClass machine _

theorem claimNamed (machine : MetalMachine) (server : String) :
    holds (claimNamed machine server).run := by
  refine habit.attemptCall_bind trivial fun found => ?_
  cases own : machine.ownClaim? with
  | none => dsimp only; split <;> exact habit.pure _
  | some binding =>
      obtain ⟨named, -, rfl⟩ := Option.map_eq_some_iff.1 own
      dsimp only
      split
      · exact habit.pure _
      · refine habit.claims (fun _ => rfl) (habit.pure _) fun error => ?_
        cases error <;> exact habit.pure _

theorem ensureNamed (machine : MetalMachine) (server : String) :
    holds (ensureNamed machine server).run := by
  refine habit.attempt_call_bind trivial fun reply => ?_
  split
  · split <;> exact habit.pure _
  · exact habit.claimNamed machine server
  · exact habit.pure _

theorem allocate (looks : ∀ key, holds (heldBindings key).run) (machine : MetalMachine)
    (cluster : ObjectKey) : holds (allocate machine cluster) := by
  unfold BareMetal.allocate
  dsimp only
  split
  · exact habit.pure _
  · refine habit.bind (habit.ensureNamed _ _) fun ensured => ?_
    split
    · exact habit.pure _
    · exact habit.pure _
    · exact habit.plain (reportReady_plain _ _ _)
  · refine habit.bind (habit.serverFromClass (looks _)) fun found => ?_
    split
    · exact habit.pure _
    · exact habit.plain ⟨trivial, fun _ => trivial⟩
    · exact habit.plain (reportReady_plain _ _ _)

/-! ## Passes -/

theorem finishMachine (before after : MetalMachine) (result : Except PassError α) :
    holds (finishMachine before after result) := by
  refine habit.bind ?_ fun _ => habit.pure _
  unfold commitMachine
  split
  · refine habit.bind (habit.update after) fun reply => ?_
    cases reply with
    | ok _ => exact habit.plain (commitMachineStatus_plain before after)
    | error _ => exact habit.pure _
  · exact habit.plain (commitMachineStatus_plain before after)

/-- What holds of the work on a machine holds of it together with the commit. -/
theorem withCommit {machine : MetalMachine}
    {work : MetalMachine → Pass (Except PassError Outcome × MetalMachine)}
    (works : holds (work machine)) : holds (withCommit machine work) :=
  habit.bind works fun _ => habit.finishMachine _ _ _

/-- A pass over a machine that is there has the habit if its release has, in case it is marked for
deletion. -/
theorem currentMachinePass (looks : ∀ key, holds (heldBindings key).run) {machine : MetalMachine}
    (releases : machine.isDeleting = true → holds (release machine)) (key : ObjectKey) :
    holds (currentMachinePass key machine) := by
  unfold BareMetal.currentMachinePass
  split
  · rename_i deleting
    split
    · exact habit.withCommit (releases deleting)
    · exact habit.pure _
  · refine habit.bind (habit.plain (gates_plain key machine)) fun gate => ?_
    split
    · exact habit.pure _
    · exact habit.pure _
    · exact habit.withCommit (habit.allocate looks machine _)

theorem healFrom (machines : List MetalMachine) : holds (healFrom machines).run := by
  induction machines with
  | nil => exact habit.pure _
  | cons machine rest ih =>
      unfold BareMetal.healFrom
      split
      · exact ih
      · cases own : machine.ownClaim? with
        | none => exact ih
        | some binding =>
            obtain ⟨server, -, rfl⟩ := Option.map_eq_some_iff.1 own
            refine habit.claims (fun _ => rfl) (habit.pure _) fun error => ?_
            cases error <;> exact habit.pure _

/-- Whatever holds of a look for the machines of a server holds of a pass over it. -/
theorem serverPass {name : String} (looks : holds (namingMachines name).run) :
    holds (serverPass name) := by
  refine habit.call_bind trivial fun reply => ?_
  split
  · exact habit.pure _
  · refine habit.bind (habit.attempt_bind looks habit.healFrom) fun healed => ?_
    split <;> exact habit.pure _
  · exact habit.pure _

end Pass.Habit

end BareMetal
