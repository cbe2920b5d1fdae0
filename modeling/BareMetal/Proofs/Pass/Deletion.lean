import BareMetal.Proofs.Names
import BareMetal.Proofs.Pass.Hearsay
import BareMetal.Proofs.Pass.Sparing

/-!
# What a pass was told before it deletes

A pass over a machine deletes only bindings that it was shown to be held by that machine.
-/

namespace BareMetal

/-- What a pass over the machine of a key may ask: it spares bindings, or it read the machine and
deletes what it was shown to be held by it. -/
inductive Permitted (key : ObjectKey) (told : Hearsay) : PassQuery → Prop
  /-- No binding is deleted. -/
  | spares {query : PassQuery} (spares : query.Spares) : Permitted key told query
  /-- A binding of the machine is deleted. -/
  | deletes {machine : MetalMachine} {name : String}
      (read : (⟨.store (.getMetalMachine key), .ok machine⟩ : Told _ _) ∈ told)
      (shows : told.Shows machine.key name) :
      Permitted key told (.store (.deleteServerBinding name))

variable {α : Type} {told : Hearsay}

/-! ## Release -/

section

variable {key machine : ObjectKey}

theorem Permitted.of_passive (told : Hearsay) (query : PassQuery) (passive : query.IsPassive) :
    Permitted key told query :=
  .spares passive.spares

/-- The names of bindings to be deleted were shown to be held by a machine. -/
def NamesHeld (machine : ObjectKey) (result : Except PassError (List String))
    (later : Hearsay) : Prop :=
  ∀ names, result = .ok names → ∀ name ∈ names, later.Shows machine name

theorem heldNamedServer_heeds (machine : MetalMachine) :
    (heldNamedServer machine).Heeds (Permitted key) (NamesHeld machine.key) told := by
  have none_held : ∀ later, NamesHeld machine.key (.ok []) later := by
    rintro later _ ⟨⟩ name member
    exact nomatch member
  unfold heldNamedServer
  split
  · exact none_held _
  · refine Attempt.heeds_call_bind (.spares trivial) fun reply => ?_
    split
    · split
      · rename_i held
        rintro _ ⟨⟩ name member
        obtain rfl := List.mem_singleton.1 member
        exact ⟨_, List.mem_append_right _ List.mem_cons_self, .found held⟩
      · exact none_held _
    · exact none_held _
    · exact fun _ failed => nomatch failed

theorem deleteBindings_heeds {machine : MetalMachine} {names : List String}
    (read : (⟨.store (.getMetalMachine key), .ok machine⟩ : Told _ _) ∈ told)
    (shown : ∀ name ∈ names, told.Shows machine.key name) :
    (deleteBindings names).Heeds (Permitted key) (fun _ _ => True) told := by
  induction names generalizing told with
  | nil => trivial
  | cons name rest ih =>
      refine Attempt.heeds_attemptCall_bind (.deletes read (shown name List.mem_cons_self))
        (fun _ => ⟨.spares trivial, fun _ => ih ?_ ?_⟩) fun _ _ => trivial
      · exact List.mem_append_left _ (List.mem_append_left _ read)
      · intro other member
        refine (shown other (List.mem_cons_of_mem _ member)).of_grows ?_
        exact (List.prefix_append _ _).trans (List.prefix_append _ _)

/-- A release deletes only bindings that were shown to be held by the machine. -/
theorem deleteHeldBindings_heeds {machine : MetalMachine}
    (read : (⟨.store (.getMetalMachine key), .ok machine⟩ : Told _ _) ∈ told) :
    (deleteHeldBindings machine).Heeds (Permitted key) (fun _ _ => True) told := by
  refine Attempt.heeds_bind ((heldBindings_heeds Permitted.of_passive).weaken
    fun _ _ _ shown => shown.1) (fun bindings now grows held => ?_) fun _ _ => trivial
  refine Attempt.heeds_bind (heldNamedServer_heeds machine)
    (fun named later grows_later named_held => ?_) fun _ _ => trivial
  have shown : ∀ name ∈ sortedNames (bindings.map ServerBinding.anyName ++ named),
      Hearsay.Shows later machine.key name := by
    intro name member
    rcases List.mem_append.1 (mem_sortedNames.1 member) with found | also_named
    · obtain ⟨binding, among, rfl⟩ := List.mem_map.1 found
      exact (held binding among).of_grows grows_later
    · exact named_held name also_named
  have deletes := deleteBindings_heeds (grows_later.subset (grows.subset read)) shown
  exact Program.heeds_bind.2 (deletes.weaken fun result _ _ _ => by cases result <;> trivial)

theorem release_heeds {machine : MetalMachine}
    (read : (⟨.store (.getMetalMachine key), .ok machine⟩ : Told _ _) ∈ told) :
    (release machine).Heeds (Permitted key) (fun _ _ => True) told := by
  refine Program.heeds_bind.2 ((deleteHeldBindings_heeds read).weaken fun result _ _ _ => ?_)
  split <;> trivial

end

/-! ## Passes -/

theorem Pass.Spares.heeds {pass : Pass α} (spares : pass.Spares) (key : ObjectKey)
    (told : Hearsay) : pass.Heeds (Permitted key) (fun _ _ => True) told :=
  Program.AsksOnly.heeds spares (fun _ _ => .spares) told

theorem currentMachinePass_heeds {key : ObjectKey} {machine : MetalMachine}
    (read : (⟨.store (.getMetalMachine key), .ok machine⟩ : Told _ _) ∈ told) :
    (currentMachinePass key machine).Heeds (Permitted key) (fun _ _ => True) told := by
  cases deleting : machine.isDeleting with
  | false => exact (currentMachinePass_spares deleting key).heeds key told
  | true =>
      unfold currentMachinePass
      rw [deleting, if_pos rfl]
      split
      · refine Program.heeds_bind.2 ((release_heeds read).weaken fun ended later _ _ => ?_)
        exact (finishMachine_direct machine ended.2 ended.1).spares.heeds key later
      · trivial

/-- A pass over a machine deletes only bindings that it was shown to be held by the machine. -/
theorem machinePass_heeds (key : ObjectKey) (told : Hearsay) :
    (machinePass key).Heeds (Permitted key) (fun _ _ => True) told := by
  refine ⟨.spares trivial, fun reply => ?_⟩
  rcases reply with error | machine
  · cases error with
    | notFound what => exact ⟨.spares trivial, fun _ => trivial⟩
    | _ => trivial
  · exact ⟨.spares trivial, fun _ => currentMachinePass_heeds (by simp)⟩

end BareMetal
