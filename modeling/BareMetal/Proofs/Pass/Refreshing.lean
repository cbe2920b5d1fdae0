import BareMetal.Pass.Binding
import BareMetal.Pass.ServerClass
import BareMetal.Proofs.Pass.Writes

/-!
# What refreshing a status comes to

Passes over bindings and over server classes bring a status up to date.  The first write nothing
but the status of a binding that is there, the second nothing but server classes.
-/

namespace BareMetal

variable {terms : Terms Store} {Fact : Store → Prop} {store : Store}

/-- A pass over a binding writes at most its status. -/
theorem bindingPass_secures (stable : terms.Stable Fact) (fact : Fact store)
    (writes : ∀ now, terms.invariant now → Fact now → ∀ name binding status,
      now.serverBindings.get? name = some binding →
        terms.Permits now (now.withBinding name (now.bindingWithStatus binding status)) ∧
          Fact (now.withBinding name (now.bindingWithStatus binding status))) (name : String) :
    (bindingPass name).Secures terms (fun _ => Fact) store := by
  have ends : ∀ {α : Type} (value : α) now, terms.rely store now →
      (pure value : Pass α).Secures terms (fun _ => Fact) now := fun value now acted later sound
        acted_later => stable sound (terms.rely_trans acted acted_later) fact
  unfold bindingPass
  refine Pass.secures_get_bind (fun _ => rfl) ?present ?missing
  case present =>
    intro now _ acted binding _
    refine Pass.secures_learn_bind (Pass.secures_bind.2 ?_)
    have commits : ∀ (result : Except PassError Outcome) later, terms.rely store later → ∀ after,
        (finishBinding binding after result).Secures terms (fun _ => Fact) later := by
      intro result later acted_later after
      unfold finishBinding
      refine Pass.secures_bind.2 (commitBinding_secures ?_ ?_ ?_)
      · exact fun last _ acted_last _ => ends _ last (terms.rely_trans acted_later acted_last)
      · exact fun last _ acted_last _ => ends _ last (terms.rely_trans acted_later acted_last)
      · intro last sound_last acted_last present found
        have acted_last : terms.rely store last := terms.rely_trans acted_later acted_last
        obtain ⟨permits, written⟩ := writes last sound_last
          (stable sound_last acted_last fact) _ present _ found
        exact ⟨permits, fun _ sound_end acted_end =>
          Pass.secures_pure.2 fun _ sound_then acted_then =>
            stable sound_then (terms.rely_trans acted_end acted_then) written⟩
    unfold refreshReadiness
    refine Pass.secures_get_bind (fun _ => rfl) ?_ ?_
    · exact fun later _ acted_later _ _ last _ acted_last => commits _ last
        (terms.rely_trans acted (terms.rely_trans acted_later acted_last)) _
    · exact fun later _ acted_later _ last _ acted_last => commits _ last
        (terms.rely_trans acted (terms.rely_trans acted_later acted_last)) _
  case missing =>
    exact fun now _ acted _ => Pass.secures_learn_bind (ends _ now acted)

section

variable (stable : terms.Stable Fact)
  (writes : ∀ now, terms.invariant now → Fact now → ∀ name change,
    terms.Permits now (now.changeServerClass name change).2 ∧
      Fact (now.changeServerClass name change).2)

include stable writes

theorem changeClass_secures (call : StoreCall) {name : String}
    {change : ServerClass → ServerClass}
    (performs : ∀ now : Store, (now.perform call).2 = (now.changeServerClass name change).2)
    (fact : Fact store) : (Attempt.call call).Secures terms (fun _ => Fact) store := by
  rw [← bind_pure (Attempt.call call)]
  refine Attempt.secures_attemptCall_bind fun now sound acted => ?_
  obtain ⟨permits, written⟩ := writes now sound (stable sound acted fact) name change
  rw [performs now]
  exact ⟨permits.1, permits.2,
    fun _ _ _ sound_later acted_later => stable sound_later acted_later written,
    fun _ _ _ sound_later acted_later => stable sound_later acted_later written⟩

theorem resetAny_secures (name : String) (spec : ServerClassSpec) (fact : Fact store) :
    (resetAny name spec).Secures terms (fun _ => Fact) store := by
  unfold resetAny
  split
  · have resets := changeClass_secures stable writes
      (.updateServerClassSpec name spec.unrestricted) (fun _ => rfl) fact
    refine Attempt.secures_bind (resets.weaken ?_)
    intro result now _ fact_now
    cases result with
    | ok _ => exact fun later sound acted => stable sound acted fact_now
    | error _ => exact fact_now
  · exact fun later sound acted => stable sound acted fact

theorem refreshClass_secures (name : String) (serverClass : ServerClass) (fact : Fact store) :
    (refreshClass name serverClass).Secures terms (fun _ => Fact) store := by
  unfold refreshClass
  refine Attempt.secures_bind ((resetAny_secures stable writes name _ fact).weaken ?_)
  intro result now _ fact_now
  cases result with
  | error _ => exact fact_now
  | ok spec =>
      refine Attempt.secures_attemptCall_bind fun later sound acted => ?_
      have fact_later : Fact later := stable sound acted fact_now
      refine ⟨sound, terms.keeps_refl later, fun servers _ => ?_, fun _ failed => nomatch failed⟩
      split
      · exact fun last sound_last acted_last => stable sound_last acted_last fact_later
      · rename_i belonging _
        dsimp only
        split
        · have updates := changeClass_secures stable writes
            (.updateServerClassStatus name (.ofServers belonging)) (fun _ => rfl)
            fact_later
          refine Attempt.secures_bind (updates.weaken ?_)
          intro ended last _ fact_last
          cases ended with
          | ok _ => exact fun _ sound_end acted_end => stable sound_end acted_end fact_last
          | error _ => exact fact_last
        · exact fun last sound_last acted_last => stable sound_last acted_last fact_later

/-- A pass over a class writes at most server classes. -/
theorem classPass_secures (name : String) (fact : Fact store) :
    (classPass name).Secures terms (fun _ => Fact) store := by
  unfold classPass
  refine Pass.secures_get_bind (fun _ => rfl) ?present ?missing
  case present =>
    exact fun now sound acted serverClass _ =>
      refreshClass_secures stable writes name serverClass (stable sound acted fact)
  case missing =>
    exact fun now sound acted _ => Pass.secures_pure.2 fun later sound_later acted_later =>
      stable sound_later acted_later (stable sound acted fact)

end

end BareMetal
