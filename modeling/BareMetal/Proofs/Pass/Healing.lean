import BareMetal.Pass.Server
import BareMetal.Proofs.Pass.Writes

/-!
# What healing comes to

A pass over a server creates a binding for a machine only if it saw that machine name the server
and not marked for deletion.
-/

namespace BareMetal

variable {terms : Terms Store} {server : String} {Sound : MetalMachine → Store → Prop}
  {store : Store}

/-- Every machine that the store shows to name a server is sound, whatever the others did since. -/
def ShowsNaming (terms : Terms Store) (server : String) (Sound : MetalMachine → Store → Prop)
    (store : Store) : Prop :=
  ∀ now, terms.invariant now → terms.rely store now → ∀ key machine,
    now.metalMachines.get? key = some machine → machine.namesServer server = true →
      Sound machine now

theorem ShowsNaming.of_rely {later : Store} (shows : ShowsNaming terms server Sound store)
    (acted : terms.rely store later) : ShowsNaming terms server Sound later :=
  fun now sound acted_again => shows now sound (terms.rely_trans acted acted_again)

/-- What a look for sound machines ends with when nothing but the others changes the store. -/
def FindsNaming (terms : Terms Store) (server : String) (Sound : MetalMachine → Store → Prop)
    (store : Store) (result : Except PassError (List MetalMachine)) (later : Store) : Prop :=
  ∃ found, result = .ok found ∧ terms.rely store later ∧
    ∀ machine ∈ found, machine.namesServer server = true ∧ Sound machine later

theorem checkMachines_secures (stable : ∀ machine, terms.Stable (Sound machine))
    (keys : List ObjectKey) (shows : ShowsNaming terms server Sound store) :
    (checkMachines server keys).Secures terms (FindsNaming terms server Sound store) store := by
  induction keys generalizing store with
  | nil => exact fun later _ acted => ⟨[], rfl, acted, by simp⟩
  | cons key rest ih =>
      unfold checkMachines
      -- A machine that does not count leaves all to the rest of the keys.
      have passes_over : ∀ now, terms.rely store now →
          (checkMachines server rest).Secures terms (FindsNaming terms server Sound store) now := by
        intro now acted
        refine (ih (shows.of_rely acted)).weaken ?_
        rintro _ later _ ⟨others, rfl, acted_later, others_sound⟩
        exact ⟨others, rfl, terms.rely_trans acted acted_later, others_sound⟩
      refine Attempt.secures_get_bind (fun _ => rfl) ?present ?missing
      case present =>
        intro now sound acted machine found
        dsimp only
        split
        · rename_i names
          refine Attempt.secures_bind ((ih (shows.of_rely acted)).weaken ?_)
          rintro _ later _ ⟨others, rfl, acted_later, others_sound⟩ last sound_last acted_last
          refine ⟨_, rfl, terms.rely_trans acted (terms.rely_trans acted_later acted_last), ?_⟩
          intro other member
          rcases List.mem_cons.1 member with rfl | member
          · exact ⟨names, stable other sound_last (terms.rely_trans acted_later acted_last)
              (shows now sound acted key other found names)⟩
          · obtain ⟨other_names, other_sound⟩ := others_sound other member
            exact ⟨other_names, stable other sound_last acted_last other_sound⟩
        · exact Attempt.secures_learn_bind (passes_over now acted)
      case missing =>
        exact fun now _ acted _ => Attempt.secures_learn_bind (passes_over now acted)

theorem listMachines_secures (stable : ∀ machine, terms.Stable (Sound machine))
    (shows : ShowsNaming terms server Sound store) :
    (listMachines server).Secures terms (FindsNaming terms server Sound store) store := by
  unfold listMachines
  refine Attempt.secures_attemptCall_bind fun now sound acted => ?_
  refine ⟨sound, terms.keeps_refl now, ?_, fun _ failed => nomatch failed⟩
  rintro _ ⟨⟩
  refine Attempt.secures_learnAll_bind fun later sound_later acted_later => ?_
  refine ⟨_, rfl, terms.rely_trans acted acted_later, fun machine member => ?_⟩
  obtain ⟨listed, names⟩ := List.mem_filter.1 member
  obtain ⟨key, found⟩ := Dict.mem_values.1 listed
  have sound_now := shows now sound acted key machine found names
  exact ⟨names, stable machine sound_later acted_later sound_now⟩

/-- A look for the machines that name a server finds sound ones. -/
theorem namingMachines_secures (stable : ∀ machine, terms.Stable (Sound machine))
    (shows : ShowsNaming terms server Sound store) :
    (namingMachines server).Secures terms (FindsNaming terms server Sound store) store := by
  unfold namingMachines
  refine Attempt.secures_machinesFor_bind fun keys => ?_
  refine Attempt.secures_bind ((checkMachines_secures stable keys shows).weaken ?_)
  rintro _ now _ ⟨known, rfl, acted, known_sound⟩
  have sorts : ∀ (found : List MetalMachine) later, terms.rely store later →
      (∀ machine ∈ found, machine.namesServer server = true ∧ Sound machine later) →
        (pure (found.mergeSort MetalMachine.inKeyOrder) : Attempt _).Secures terms
          (FindsNaming terms server Sound store) later := by
    intro found later acted_later found_sound last sound_last acted_last
    refine ⟨_, rfl, terms.rely_trans acted_later acted_last, fun machine member => ?_⟩
    obtain ⟨names, sound⟩ := found_sound machine (List.mem_mergeSort.1 member)
    exact ⟨names, stable machine sound_last acted_last sound⟩
  cases known with
  | nil =>
      refine Attempt.secures_bind
        ((listMachines_secures stable (shows.of_rely acted)).weaken ?_)
      rintro _ later _ ⟨found, rfl, acted_later, found_sound⟩
      exact sorts found later (terms.rely_trans acted acted_later) found_sound
  | cons machine others => exact sorts (machine :: others) now acted known_sound

/-- What makes a binding for a machine that was seen to name the server a good one. -/
structure Heals (terms : Terms Store) (server : String) (Sound : MetalMachine → Store → Prop)
    (Healed : Store → Prop) (store : Store) : Prop where
  /-- The others cannot make a sound machine unsound. -/
  stable : ∀ machine, terms.Stable (Sound machine)
  /-- The others cannot undo a healing. -/
  stable_healed : terms.Stable Healed
  /-- A machine that names the server is sound. -/
  shows : ShowsNaming terms server Sound store
  /-- The server can be claimed for a sound machine. -/
  claimed : ∀ now, terms.invariant now → terms.rely store now → ∀ machine, Sound machine now →
    machine.isDeleting = false → now.serverBindings.get? server = none →
      terms.Permits now (now.withCreated (claim machine server machine.spec.serverClassRef)) ∧
        Healed (now.withCreated (claim machine server machine.spec.serverClassRef))

section

variable {Healed : Store → Prop}

theorem Heals.of_rely {later : Store} (heals : Heals terms server Sound Healed store)
    (acted : terms.rely store later) : Heals terms server Sound Healed later where
  stable := heals.stable
  stable_healed := heals.stable_healed
  shows := heals.shows.of_rely acted
  claimed now sound acted_now := heals.claimed now sound (terms.rely_trans acted acted_now)

theorem MetalMachine.namedServer?_of_namesServer {machine : MetalMachine}
    (names : machine.namesServer server = true) : machine.namedServer? = some server := by
  obtain ⟨reference, found, same⟩ := (Option.any_eq_true _ _).1 names
  rw [namedServer?, found, ← beq_iff_eq.1 same]
  rfl

/-- A machine that names a server claims just that server. -/
theorem MetalMachine.ownClaim?_of_namesServer {machine : MetalMachine}
    (names : machine.namesServer server = true) :
    machine.ownClaim? = some (claim machine server machine.spec.serverClassRef) := by
  rw [ownClaim?, namedServer?_of_namesServer names]
  rfl

theorem healFrom_secures (heals : Heals terms server Sound Healed store)
    (machines : List MetalMachine)
    (known : ∀ machine ∈ machines, machine.namesServer server = true ∧ Sound machine store) :
    (healFrom machines).Secures terms (fun _ later => Healed later ∨ terms.rely store later)
      store := by
  induction machines with
  | nil => exact fun later _ acted => .inr acted
  | cons machine rest ih =>
      obtain ⟨names, machine_sound⟩ := known machine List.mem_cons_self
      have tries_rest := ih fun other member => known other (List.mem_cons_of_mem _ member)
      unfold healFrom
      split
      · exact tries_rest
      · rename_i stays
        rw [MetalMachine.ownClaim?_of_namesServer names]
        refine Attempt.secures_create_bind ?_ ?_ ?_
        · intro now sound acted free
          obtain ⟨permits, healed⟩ := heals.claimed now sound acted machine
            (heals.stable machine sound acted machine_sound) (Bool.eq_false_iff.2 stays) free
          exact ⟨permits, Attempt.secures_learn_bind <| Attempt.secures_pure.2
            fun later sound_later acted_later =>
              .inl (heals.stable_healed sound_later acted_later healed)⟩
        · exact fun now _ acted _ _ _ later _ acted_later =>
            .inr (terms.rely_trans acted acted_later)
        · exact fun now _ acted _ _ later _ acted_later =>
            .inr (terms.rely_trans acted acted_later)

/-- A pass over a server heals its binding or leaves the store to the others. -/
theorem serverPass_secures (heals : Heals terms server Sound Healed store) :
    (serverPass server).Secures terms (fun _ later => Healed later ∨ terms.rely store later)
      store := by
  unfold serverPass
  refine Pass.secures_get_bind (fun _ => rfl) ?present ?missing
  case present =>
    exact fun now _ acted _ _ later _ acted_later => .inr (terms.rely_trans acted acted_later)
  case missing =>
    intro now _ acted _
    dsimp only
    have heals_now := heals.of_rely acted
    have healing : (healBinding server).Secures terms
        (fun _ later => Healed later ∨ terms.rely store later) now := by
      unfold healBinding
      refine Attempt.secures_bind
        ((namingMachines_secures heals_now.stable heals_now.shows).weaken ?_)
      rintro _ later _ ⟨found, rfl, acted_later, found_sound⟩
      refine (healFrom_secures (heals_now.of_rely acted_later) found found_sound).weaken ?_
      rintro _ last _ (healed | unchanged)
      · exact .inl healed
      · exact .inr (terms.rely_trans acted (terms.rely_trans acted_later unchanged))
    refine Pass.secures_bind.2 (healing.always.weaken ?_)
    intro result later _ ends
    cases result <;> exact fun last sound_last acted_last => ends last sound_last acted_last

end

end BareMetal
