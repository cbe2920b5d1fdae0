import BareMetal.Pass.Holding
import BareMetal.Proofs.Pass.Secures

/-!
# What a look for held bindings finds

A pass that looks for the bindings of a machine finds only bindings that were in the store, held by
that machine, at some time while it looked; and if it finds none, then at some time there was none.
Facts about the store that the others leave alone therefore still hold when the look is over.
-/

namespace BareMetal

variable {terms : Terms Store} {machine : ObjectKey} {Sound : ServerBinding → Store → Prop}
  {store : Store}

/-- No binding of the store is held by a machine. -/
def Store.HoldsNothing (store : Store) (machine : ObjectKey) : Prop :=
  ∀ name binding, store.serverBindings.get? name = some binding → binding.isHeldBy machine = false

/-- Every binding that the store shows to be held by a machine is sound, whatever the others did
since. -/
def Shows (terms : Terms Store) (machine : ObjectKey) (Sound : ServerBinding → Store → Prop)
    (store : Store) : Prop :=
  ∀ now, terms.invariant now → terms.rely store now → ∀ name binding,
    now.serverBindings.get? name = some binding → binding.isHeldBy machine = true →
      Sound binding now

theorem Shows.of_rely {later : Store} (shows : Shows terms machine Sound store)
    (acted : terms.rely store later) : Shows terms machine Sound later :=
  fun now sound acted_again => shows now sound (terms.rely_trans acted acted_again)

/-- What a look for sound bindings ends with when nothing but the others changes the store. -/
def Finds (terms : Terms Store) (Sound : ServerBinding → Store → Prop) (store : Store)
    (result : Except PassError (List ServerBinding)) (later : Store) : Prop :=
  ∃ found, result = .ok found ∧ terms.rely store later ∧ ∀ binding ∈ found, Sound binding later

theorem checkBindings_secures (stable : ∀ binding, terms.Stable (Sound binding))
    (names : List String) (shows : Shows terms machine Sound store) :
    (checkBindings machine names).Secures terms (Finds terms Sound store) store := by
  induction names generalizing store with
  | nil => exact fun later _ acted => ⟨[], rfl, acted, by simp⟩
  | cons name rest ih =>
      unfold checkBindings
      refine Attempt.secures_get_bind (fun _ => rfl) ?present ?missing
      case present =>
        intro now sound acted binding found
        refine Attempt.secures_bind ((ih (shows.of_rely acted)).weaken ?_)
        rintro _ later sound_later ⟨others, rfl, acted_later, others_sound⟩
        intro last sound_last acted_last
        refine ⟨_, rfl, terms.rely_trans acted (terms.rely_trans acted_later acted_last), ?_⟩
        intro other member
        have others_last : ∀ other ∈ others, Sound other last := fun other member =>
          stable other sound_last acted_last (others_sound other member)
        split at member
        · rename_i held
          rcases List.mem_cons.1 member with rfl | member
          · exact stable other sound_last (terms.rely_trans acted_later acted_last)
              (shows now sound acted name other found held)
          · exact others_last other member
        · exact others_last other member
      case missing =>
        intro now sound acted absent
        refine Attempt.secures_learn_bind ((ih (shows.of_rely acted)).weaken ?_)
        rintro _ later sound_later ⟨others, rfl, acted_later, others_sound⟩
        exact ⟨others, rfl, terms.rely_trans acted acted_later, others_sound⟩

/-- What a look for all held bindings ends with: sound ones, or a store that was free of them. -/
def FindsAll (terms : Terms Store) (Sound : ServerBinding → Store → Prop) (Free : Store → Prop)
    (store : Store) (result : Except PassError (List ServerBinding)) (later : Store) : Prop :=
  ∃ found, result = .ok found ∧ terms.rely store later ∧
    (∀ binding ∈ found, Sound binding later) ∧ (found = [] → Free later)

theorem listBindings_secures (Free : Store → Prop)
    (stable : ∀ binding, terms.Stable (Sound binding))
    (stable_free : terms.Stable Free) (shows : Shows terms machine Sound store)
    (free : ∀ now, terms.invariant now → terms.rely store now → now.HoldsNothing machine →
      Free now) :
    (listBindings machine).Secures terms (FindsAll terms Sound Free store) store := by
  unfold listBindings
  refine Attempt.secures_attemptCall_bind fun now sound acted => ?_
  refine ⟨sound, terms.keeps_refl now, ?_, fun _ failed => nomatch failed⟩
  rintro _ ⟨⟩
  refine Attempt.secures_learnAll_bind fun later sound_later acted_later => ?_
  refine ⟨_, rfl, terms.rely_trans acted acted_later, ?_, ?_⟩
  · intro binding member
    obtain ⟨listed, held⟩ := List.mem_filter.1 member
    obtain ⟨name, found⟩ := Dict.mem_values.1 listed
    exact stable binding sound_later acted_later (shows now sound acted name binding found held)
  · intro none_found
    refine stable_free sound_later acted_later (free now sound acted fun name binding found => ?_)
    exact Bool.eq_false_iff.2 <|
      List.filter_eq_nil_iff.1 none_found binding (Dict.mem_values.2 ⟨name, found⟩)

/-- A look for the bindings of a machine finds sound ones, or a store without any. -/
theorem heldBindings_secures (Free : Store → Prop)
    (stable : ∀ binding, terms.Stable (Sound binding))
    (stable_free : terms.Stable Free) (shows : Shows terms machine Sound store)
    (free : ∀ now, terms.invariant now → terms.rely store now → now.HoldsNothing machine →
      Free now) :
    (heldBindings machine).Secures terms (FindsAll terms Sound Free store) store := by
  unfold heldBindings
  refine Attempt.secures_bindingsFor_bind fun names => ?_
  refine Attempt.secures_bind ((checkBindings_secures stable names shows).weaken ?_)
  rintro _ now sound ⟨known, rfl, acted, known_sound⟩
  have sorts : ∀ found later, terms.invariant later → terms.rely store later →
      (∀ binding ∈ found, Sound binding later) → (found = [] → Free later) →
        (pure (found.mergeSort ServerBinding.inNameOrder) : Attempt _).Secures terms
          (FindsAll terms Sound Free store) later := by
    intro found later _ acted_later found_sound found_free last sound_last acted_last
    refine ⟨_, rfl, terms.rely_trans acted_later acted_last, ?_, ?_⟩
    · intro binding member
      exact stable binding sound_last acted_last
        (found_sound binding (List.mem_mergeSort.1 member))
    · intro none_found
      have empty : found = [] := List.eq_nil_of_length_eq_zero <| by
        simpa using congrArg List.length none_found
      exact stable_free sound_last acted_last (found_free empty)
  cases known with
  | nil =>
      refine Attempt.secures_bind ((listBindings_secures Free stable stable_free
        (shows.of_rely acted) fun later sound_later acted_later =>
          free later sound_later (terms.rely_trans acted acted_later)).weaken ?_)
      rintro _ later sound_later ⟨found, rfl, acted_later, found_sound, found_free⟩
      exact sorts found later sound_later (terms.rely_trans acted acted_later) found_sound
        found_free
  | cons binding others =>
      exact sorts (binding :: others) now sound acted known_sound (fun none => nomatch none)

end BareMetal
