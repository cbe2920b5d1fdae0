import BareMetal.Pass.Binding
import BareMetal.Pass.Machine
import BareMetal.Pass.Server
import BareMetal.Pass.ServerClass
import BareMetal.Proofs.Program.Heeds

/-!
# Passive parts of passes

Most parts of a pass only look around or report a status.  They are passive: no binding comes or
goes by them, and no machine is made to ask for anything else.  Looking around is quiet besides:
nothing of it is seen by others.
-/

namespace BareMetal

variable {α β : Type} {allowed : PassQuery → Prop}

/-! ## Rules -/

/-- What a pass that may fail asks at most. -/
abbrev Attempt.AsksOnly (allowed : PassQuery → Prop) (attempt : Attempt α) : Prop :=
  Program.AsksOnly allowed attempt.run

namespace Pass

theorem asks_bind {first : Pass β} {rest : β → Pass α} (asks : first.AsksOnly allowed)
    (asks_rest : ∀ value, (rest value).AsksOnly allowed) : (first >>= rest).AsksOnly allowed :=
  Program.AsksOnly.bind asks asks_rest

theorem asks_call_bind {call : StoreCall} {rest : call.Reply → Pass α}
    (asks : allowed (.store call)) (asks_rest : ∀ reply, (rest reply).AsksOnly allowed) :
    (Pass.call call >>= rest).AsksOnly allowed :=
  ⟨asks, asks_rest⟩

theorem asks_learn_bind {event : Index.Event} {rest : Unit → Pass α}
    (learns : allowed (.learn event)) (asks_rest : (rest ()).AsksOnly allowed) :
    (Pass.learn event >>= rest).AsksOnly allowed :=
  ⟨learns, fun _ => asks_rest⟩

end Pass

namespace Attempt

theorem asks_bind {first : Attempt β} {rest : β → Attempt α} (asks : first.AsksOnly allowed)
    (asks_rest : ∀ value, (rest value).AsksOnly allowed) :
    (first >>= rest).AsksOnly allowed := by
  refine Pass.asks_bind asks fun result => ?_
  cases result with
  | ok value => exact asks_rest value
  | error error => trivial

theorem asks_call_bind {call : StoreCall} {rest : call.Reply → Attempt α}
    (asks : allowed (.store call)) (asks_rest : ∀ reply, (rest reply).AsksOnly allowed) :
    ((Pass.call call : Attempt call.Reply) >>= rest).AsksOnly allowed :=
  ⟨asks, asks_rest⟩

theorem asks_attemptCall {call : StoreCall} (asks : allowed (.store call)) :
    (Attempt.call call).AsksOnly allowed := by
  refine asks_call_bind asks fun reply => ?_
  cases reply <;> trivial

theorem asks_learn_bind {event : Index.Event} {rest : Unit → Attempt α}
    (learns : allowed (.learn event)) (asks_rest : (rest ()).AsksOnly allowed) :
    ((Pass.learn event : Attempt Unit) >>= rest).AsksOnly allowed :=
  ⟨learns, fun _ => asks_rest⟩

theorem asks_learnAll_bind {events : List Index.Event} {rest : Unit → Attempt α}
    (learns : ∀ event ∈ events, allowed (.learn event)) (asks_rest : (rest ()).AsksOnly allowed) :
    ((Pass.learnAll events : Attempt Unit) >>= rest).AsksOnly allowed := by
  induction events with
  | nil => exact asks_rest
  | cons event events ih =>
      rw [List.forall_mem_cons] at learns
      exact asks_learn_bind learns.1 (ih learns.2)

end Attempt

/-- A query by which no binding comes or goes and no machine is made to ask for anything else. -/
def PassQuery.IsPassive : PassQuery → Prop
  | .store (.createServerBinding _) | .store (.deleteServerBinding _)
  | .store (.updateMetalMachine _) => False
  | _ => True

/-- A pass by which no binding comes or goes and no machine is made to ask for anything else. -/
abbrev Pass.IsPassive (pass : Pass α) : Prop := Program.AsksOnly PassQuery.IsPassive pass

/-- A passive pass that may fail. -/
abbrev Attempt.IsPassive (attempt : Attempt α) : Prop := attempt.AsksOnly PassQuery.IsPassive

/-- Whether a call changes an object. -/
def StoreCall.isWrite : StoreCall → Bool
  | .createServerClass _ | .updateServerClassSpec _ _ | .updateServerClassStatus _ _
  | .createServerBinding _ | .deleteServerBinding _ | .updateServerBindingStatus _ _
  | .updateMetalMachine _ | .updateMetalMachineStatus _ _ => true
  | _ => false

/-- Whether a query changes what others see: the objects, the workload nodes and the counters. -/
def PassQuery.isEffect : PassQuery → Bool
  | .store call => call.isWrite
  | .stampNode _ _ _ | .count _ => true
  | _ => false

/-- A query that changes nothing that others see. -/
def PassQuery.IsQuiet (query : PassQuery) : Prop := query.isEffect = false

/-- An attempt that changes nothing that others see. -/
abbrev Attempt.IsQuiet (attempt : Attempt α) : Prop := attempt.AsksOnly PassQuery.IsQuiet

/-- A passive query that has nothing to do with the index. -/
def PassQuery.IsPlain : PassQuery → Prop
  | .bindingsFor _ | .machinesFor _ | .learn _ => False
  | query => query.IsPassive

/-- A passive pass that has nothing to do with the index. -/
abbrev Pass.IsPlain (pass : Pass α) : Prop := Program.AsksOnly PassQuery.IsPlain pass

/-- A passive attempt that has nothing to do with the index. -/
abbrev Attempt.IsPlain (attempt : Attempt α) : Prop := attempt.AsksOnly PassQuery.IsPlain

theorem PassQuery.IsQuiet.passive {query : PassQuery} (quiet : query.IsQuiet) :
    query.IsPassive := by
  unfold PassQuery.IsPassive
  split
  · exact nomatch quiet
  · exact nomatch quiet
  · exact nomatch quiet
  · trivial

theorem PassQuery.IsPlain.passive {query : PassQuery} (plain : query.IsPlain) :
    query.IsPassive := by
  unfold PassQuery.IsPlain at plain
  split at plain
  · exact plain.elim
  · exact plain.elim
  · exact plain.elim
  · exact plain

theorem Attempt.IsQuiet.passive {attempt : Attempt α} (quiet : attempt.IsQuiet) :
    attempt.IsPassive :=
  Program.AsksOnly.weaken quiet fun _ => PassQuery.IsQuiet.passive

theorem Pass.IsPlain.passive {pass : Pass α} (plain : pass.IsPlain) : pass.IsPassive :=
  Program.AsksOnly.weaken plain fun _ => PassQuery.IsPlain.passive

theorem Attempt.IsPlain.passive {attempt : Attempt α} (plain : attempt.IsPlain) :
    attempt.IsPassive :=
  Pass.IsPlain.passive plain

/-! ## Looking for bindings, machines and servers -/

theorem checkBindings_quiet (machine : ObjectKey) (names : List String) :
    (checkBindings machine names).IsQuiet := by
  induction names with
  | nil => trivial
  | cons name rest ih =>
      unfold checkBindings
      refine Attempt.asks_call_bind rfl fun reply => ?_
      split
      · exact Attempt.asks_bind ih fun _ => trivial
      · exact Attempt.asks_learn_bind rfl ih
      · trivial

theorem listBindings_quiet (machine : ObjectKey) : (listBindings machine).IsQuiet :=
  Attempt.asks_bind (Attempt.asks_attemptCall rfl) fun _ =>
    Attempt.asks_learnAll_bind (fun _ _ => rfl) trivial

theorem heldBindings_quiet (machine : ObjectKey) : (heldBindings machine).IsQuiet := by
  refine ⟨rfl, fun names => ?_⟩
  refine Attempt.asks_bind (checkBindings_quiet machine names) fun known => ?_
  split
  · exact Attempt.asks_bind (listBindings_quiet machine) fun _ => trivial
  · trivial

theorem heldNamedServer_plain (machine : MetalMachine) : (heldNamedServer machine).IsPlain := by
  unfold heldNamedServer
  split
  · trivial
  · refine Attempt.asks_call_bind trivial fun reply => ?_
    split
    · split <;> trivial
    · trivial
    · trivial

section

variable (looks : ∀ call : StoreCall, call.isWrite = false → allowed (.store call))
  (sees : ∀ machine, allowed (.learn (.machineSeen machine)))
  (loses : ∀ key, allowed (.learn (.machineGone key)))


include looks sees loses in
theorem checkMachines_asks (server : String) (keys : List ObjectKey) :
    (checkMachines server keys).AsksOnly allowed := by
  induction keys with
  | nil => trivial
  | cons key rest ih =>
      unfold checkMachines
      refine Attempt.asks_call_bind (looks _ rfl) fun reply => ?_
      split
      · split
        · exact Attempt.asks_bind ih fun _ => trivial
        · exact Attempt.asks_learn_bind (sees _) ih
      · exact Attempt.asks_learn_bind (loses _) ih
      · trivial

include looks sees in
theorem listMachines_asks (server : String) : (listMachines server).AsksOnly allowed := by
  refine Attempt.asks_bind (Attempt.asks_attemptCall (looks _ rfl)) fun machines => ?_
  refine Attempt.asks_learnAll_bind (fun event member => ?_) trivial
  obtain ⟨machine, -, rfl⟩ := List.mem_map.1 member
  exact sees machine

include looks sees loses in
/-- A look for the machines of a server looks at machines, and asks and tells the index of
machines. -/
theorem namingMachines_asks (server : String) (asks : allowed (.machinesFor server)) :
    (namingMachines server).AsksOnly allowed := by
  refine ⟨asks, fun keys => ?_⟩
  refine Attempt.asks_bind (checkMachines_asks looks sees loses server keys) fun known => ?_
  split
  · exact Attempt.asks_bind (listMachines_asks looks sees server) fun _ => trivial
  · trivial

end

theorem namingMachines_passive (server : String) : (namingMachines server).IsPassive :=
  namingMachines_asks (fun _ quiet => PassQuery.IsQuiet.passive quiet) (fun _ => trivial)
    (fun _ => trivial) server trivial

theorem presentServers_plain (names : List String) : (presentServers names).IsPlain := by
  induction names with
  | nil => trivial
  | cons name rest ih =>
      unfold presentServers
      refine Attempt.asks_call_bind trivial fun reply => ?_
      split
      · exact Attempt.asks_bind ih fun _ => trivial
      · exact ih
      · trivial

theorem gates_plain (key : ObjectKey) (machine : MetalMachine) :
    (gates key machine).IsPlain := by
  unfold gates
  split
  · trivial
  · refine Attempt.asks_call_bind trivial fun reply => ?_
    split
    · unfold ownerGates
      split
      · trivial
      · refine Attempt.asks_call_bind trivial fun reply => ?_
        split <;> trivial
    · trivial
    · trivial

/-! ## Reporting a status -/

theorem reportReady_plain (machine : MetalMachine) (cluster : ObjectKey) (server : String) :
    (reportReady machine cluster server).IsPlain := by
  refine Pass.asks_call_bind trivial fun reply => ?_
  split
  · split
    · refine ⟨trivial, fun stamped => ?_⟩
      cases stamped <;> exact ⟨trivial, fun _ => trivial⟩
    · trivial
  · trivial
  · trivial

theorem commitMachineStatus_plain (before after : MetalMachine) :
    (commitMachineStatus before after).IsPlain := by
  unfold commitMachineStatus
  split
  · trivial
  · refine Pass.asks_call_bind trivial fun reply => ?_
    split <;> trivial

theorem refreshReadiness_plain (binding : ServerBinding) :
    (refreshReadiness binding).IsPlain := by
  refine Pass.asks_call_bind trivial fun reply => ?_
  split <;> trivial

theorem finishBinding_plain (before after : ServerBinding) (result : Except PassError α) :
    (finishBinding before after result).IsPlain := by
  refine Pass.asks_bind ?_ fun _ => trivial
  unfold commitBinding
  split
  · trivial
  · exact ⟨trivial, fun _ => trivial⟩

theorem bindingPass_passive (name : String) : (bindingPass name).IsPassive := by
  refine Pass.asks_call_bind trivial fun reply => ?_
  split
  · refine Pass.asks_learn_bind trivial ?_
    exact Pass.asks_bind (refreshReadiness_plain _).passive fun _ =>
      (finishBinding_plain _ _ _).passive
  · exact Pass.asks_learn_bind trivial trivial
  · trivial

theorem classPass_plain (name : String) : (classPass name).IsPlain := by
  refine Pass.asks_call_bind trivial fun reply => ?_
  split
  · refine Attempt.asks_bind ?_ fun spec => ?_
    · unfold resetAny
      split
      · exact Attempt.asks_bind (Attempt.asks_attemptCall trivial) fun _ => trivial
      · trivial
    · refine Attempt.asks_bind (Attempt.asks_attemptCall trivial) fun servers => ?_
      split
      · trivial
      · dsimp only
        split
        · exact Attempt.asks_bind (Attempt.asks_attemptCall trivial) fun _ => trivial
        · trivial
  · trivial
  · trivial

theorem classPass_passive (name : String) : (classPass name).IsPassive :=
  (classPass_plain name).passive

end BareMetal
