import BareMetal.Proofs.Names
import BareMetal.Proofs.Pass.Holding
import BareMetal.Proofs.Store.WellKept

/-!
# What a release deletes

A release that is left alone deletes bindings of its machine and no others, and it tells that there
were none only if there were none.
-/

namespace BareMetal

/-- The terms of a pass that nothing else interferes with. -/
def alone : Terms Store where
  invariant _ := True
  rely := Eq
  keeps _ _ := True
  rely_refl _ := rfl
  rely_trans := Eq.trans
  keeps_refl _ := trivial

theorem alone_stable (Fact : Store → Prop) : alone.Stable Fact :=
  fun _ same fact => same ▸ fact

/-- Of a store nothing is gone but bindings of one machine. -/
structure Relieved (machine : ObjectKey) (before after : Store) : Prop where
  /-- No metal machine was touched. -/
  metalMachines : after.metalMachines = before.metalMachines
  /-- No version was taken back. -/
  version : before.version ≤ after.version
  /-- No binding is new or changed. -/
  old : ∀ name binding, after.serverBindings.get? name = some binding →
    before.serverBindings.get? name = some binding
  /-- Bindings of other machines are there still. -/
  others : ∀ name binding, before.serverBindings.get? name = some binding →
    binding.isHeldBy machine = false → after.serverBindings.get? name = some binding

theorem Relieved.refl (machine : ObjectKey) (store : Store) : Relieved machine store store :=
  ⟨rfl, Nat.le_refl _, fun _ _ found => found, fun _ _ found _ => found⟩

theorem Relieved.wellKept {machine : ObjectKey} {before after : Store}
    (relieved : Relieved machine before after) (kept : before.WellKept) : after.WellKept where
  binding_name name binding found :=
    kept.binding_name name binding (relieved.old name binding found)
  machine_key key present found := kept.machine_key key present (relieved.metalMachines ▸ found)
  machine_version key present found :=
    (kept.machine_version key present (relieved.metalMachines ▸ found)).of_le relieved.version

section

variable {machine : ObjectKey} {before store : Store}

/-- Whatever lies under a name is a binding of the machine. -/
def OwnName (machine : ObjectKey) (store : Store) (name : String) : Prop :=
  ∀ binding, store.serverBindings.get? name = some binding → binding.isHeldBy machine = true

theorem Relieved.delete (relieved : Relieved machine before store) {name : String}
    (own : OwnName machine before name) :
    Relieved machine before (store.perform (.deleteServerBinding name)).2 where
  metalMachines := relieved.metalMachines
  version := relieved.version
  old other binding found := relieved.old other binding (Dict.get?_erase_eq_some.1 found).2
  others other binding found elsewhere := by
    refine Dict.get?_erase_eq_some.2 ⟨?_, relieved.others other binding found elsewhere⟩
    rintro rfl
    exact nomatch elsewhere.symm.trans (own binding found)

theorem deleteBindings_alone (names : List String)
    (own : ∀ name ∈ names, OwnName machine before name)
    (relieved : Relieved machine before store) :
    (deleteBindings names).Secures alone (fun _ later => Relieved machine before later) store := by
  induction names generalizing store with
  | nil => exact fun _ _ same => same ▸ relieved
  | cons name rest ih =>
      unfold deleteBindings
      refine Attempt.secures_attemptCall_bind fun now _ same => ?_
      obtain rfl : store = now := same
      refine ⟨trivial, trivial, fun _ _ => ?_, fun _ failed => nomatch failed⟩
      exact Attempt.secures_learn_bind <|
        ih (fun other member => own other (List.mem_cons_of_mem _ member))
          (relieved.delete (own name List.mem_cons_self))

theorem heldNamedServer_alone (machine : MetalMachine) (store : Store) :
    (heldNamedServer machine).Secures alone (fun result later => store = later ∧
      ∃ names, result = .ok names ∧ ∀ name ∈ names, OwnName machine.key store name) store := by
  unfold heldNamedServer
  split
  · exact fun later _ same => ⟨same, [], rfl, by simp⟩
  · refine Attempt.secures_get_bind (fun _ => rfl) ?present ?missing
    case present =>
      intro now _ same binding found later _ same_later
      obtain rfl : store = now := same
      refine ⟨same_later, _, rfl, fun name member => ?_⟩
      split at member
      · rename_i held
        obtain rfl := List.mem_singleton.1 member
        intro other found_other
        obtain rfl : binding = other := Option.some.inj (found.symm.trans found_other)
        exact held
      · exact nomatch member
    case missing =>
      intro now _ same _ later _ same_later
      exact ⟨same.trans same_later, [], rfl, by simp⟩

/-- A release alone deletes nothing but bindings of its machine; if it found none, there is none. -/
theorem deleteHeldBindings_alone (machine : MetalMachine)
    (named : ∀ name binding, store.serverBindings.get? name = some binding →
      binding.anyName = name) :
    (deleteHeldBindings machine).Secures alone (fun result later =>
      Relieved machine.key store later ∧
        (result = .ok false → store.HoldsNothing machine.key)) store := by
  unfold deleteHeldBindings
  have shows : Shows alone machine.key
      (fun binding _ => OwnName machine.key store binding.anyName) store := by
    intro now _ same name binding found held
    obtain rfl : store = now := same
    rw [named name binding found]
    intro other found_other
    obtain rfl : binding = other := Option.some.inj (found.symm.trans found_other)
    exact held
  refine Attempt.secures_bind ((heldBindings_secures (fun _ => store.HoldsNothing machine.key)
    (fun _ => alone_stable _) (fun _ _ free => free) shows fun now _ same free => by
      obtain rfl : store = now := same
      exact free).weaken ?_)
  rintro _ now _ ⟨held, rfl, rfl, held_own, none_held⟩
  refine Attempt.secures_bind ((heldNamedServer_alone machine store).weaken ?_)
  rintro _ _ _ ⟨rfl, own_names, rfl, names_own⟩
  have all_own : ∀ name ∈ sortedNames (held.map ServerBinding.anyName ++ own_names),
      OwnName machine.key store name := by
    intro name member
    rcases List.mem_append.1 (mem_sortedNames.1 member) with member | member
    · obtain ⟨binding, among_held, rfl⟩ := List.mem_map.1 member
      exact held_own binding among_held
    · exact names_own name member
  refine Attempt.secures_bind
    ((deleteBindings_alone _ all_own (Relieved.refl machine.key store)).weaken ?_)
  intro result later _ relieved
  cases result with
  | error _ => exact ⟨relieved, fun failed => nomatch failed⟩
  | ok _ =>
      rintro last _ rfl
      refine ⟨relieved, fun told => none_held ?_⟩
      have no_names : sortedNames (held.map ServerBinding.anyName ++ own_names) = [] := by
        simpa using Except.ok.inj told
      refine List.eq_nil_iff_forall_not_mem.2 fun binding member => ?_
      have listed : binding.anyName ∈ held.map ServerBinding.anyName ++ own_names :=
        List.mem_append_left _ (List.mem_map_of_mem member)
      rw [← mem_sortedNames, no_names] at listed
      exact nomatch listed

end

end BareMetal
