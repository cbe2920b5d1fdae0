import BareMetal.Proofs.Fleet

/-!
# Fleets in which passes over one object follow each other

No two passes work at one object at the same time: a pass goes on only while no later one over its
object was started.  A pass that was given up, because its allocator crashed or its write was
refused, is one that is followed by another.
-/

namespace BareMetal.Fleet

variable {Outside : Store → Store → Prop} {fleet first second third : Fleet} {pass other : Nat}
  {subject : Subject}

/-! ## Passes that may go on -/

/-- No later pass over the object of a pass was started. -/
def Current (fleet : Fleet) (pass : Nat) : Prop :=
  ∃ subject, fleet.subjects[pass]? = some subject ∧ subject ∉ fleet.subjects.drop (pass + 1)

theorem mem_drop_of_lt (found : fleet.subjects[other]? = some subject) (later : pass < other) :
    subject ∈ fleet.subjects.drop (pass + 1) := by
  refine List.mem_of_getElem? (i := other - (pass + 1)) ?_
  rw [List.getElem?_drop, Nat.add_sub_cancel' later, found]

/-- Of the passes over an object at most one is current. -/
theorem Current.unique (current : fleet.Current pass) (current_too : fleet.Current other)
    (found : fleet.subjects[pass]? = some subject)
    (found_too : fleet.subjects[other]? = some subject) : pass = other := by
  obtain ⟨own, found_own, last⟩ := current
  obtain ⟨own_too, found_own_too, last_too⟩ := current_too
  obtain rfl : own = subject := Option.some.inj (found_own.symm.trans found)
  obtain rfl : own_too = own := Option.some.inj (found_own_too.symm.trans found_too)
  rcases Nat.lt_trichotomy pass other with earlier | same | later
  · exact absurd (mem_drop_of_lt found_too earlier) last
  · exact same
  · exact absurd (mem_drop_of_lt found later) last_too

theorem subjects_start (fleet : Fleet) (subject : Subject) :
    Fleet.subjects { fleet with passes := fleet.passes ++ [subject.start] } =
      fleet.subjects ++ [subject] := by
  simp [subjects, Subject.start]

/-- A pass that is current when another is started was so before. -/
theorem Current.of_start (within : pass < fleet.passes.length)
    (current : Current { fleet with passes := fleet.passes ++ [subject.start] } pass) :
    fleet.Current pass := by
  obtain ⟨own, found, last⟩ := current
  have within : pass < fleet.subjects.length := by simpa [subjects] using within
  rw [subjects_start] at found last
  rw [List.getElem?_append_left within] at found
  rw [List.drop_append_of_le_length within, List.mem_append, not_or] at last
  exact ⟨own, found, last.1⟩

theorem current_congr (same : second.subjects = first.subjects) :
    second.Current pass ↔ first.Current pass := by
  rw [Current, Current, same]

/-! ## Orderly runs -/

/-- Things happen to a fleet one after the other, and only current passes get answers. -/
inductive Orderly (Outside : Store → Store → Prop) (first : Fleet) : List Act → Fleet → Prop
  /-- Nothing happened yet. -/
  | refl : Orderly Outside first [] first
  /-- One more thing happens. -/
  | step {acts : List Act} {before after : Fleet} {act : Act}
      (orderly : Orderly Outside first acts before) (step : before.Step Outside act after)
      (current : ∀ pass query answer, act = .answer pass query answer → before.Current pass) :
      Orderly Outside first (acts ++ [act]) after

theorem Orderly.run {acts : List Act} (orderly : first.Orderly Outside acts second) :
    first.Run Outside acts second := by
  induction orderly with
  | refl => exact .refl
  | step _ step _ ih => exact ih.step step

theorem Orderly.append {front back : List Act} (before : first.Orderly Outside front second)
    (after : second.Orderly Outside back third) : first.Orderly Outside (front ++ back) third := by
  induction after with
  | refl => rwa [List.append_nil]
  | step _ step current ih =>
      rw [← List.append_assoc]
      exact ih.step step current

theorem advance_orderly (Outside : Store → Store → Prop) (current : fleet.Current pass) :
    ∃ acts, fleet.Orderly Outside acts (fleet.advance pass) := by
  unfold advance
  split
  · rename_i at_query
    refine ⟨_, .step .refl (.answer at_query (respond_answered fleet.store _)) ?_⟩
    rintro _ _ _ ⟨⟩
    exact current
  · exact ⟨[], .refl⟩

/-- A schedule of current passes played is an orderly run. -/
theorem play_orderly (Outside : Store → Store → Prop) {schedule : List Nat}
    (current : ∀ pass ∈ schedule, fleet.Current pass) :
    ∃ acts, fleet.Orderly Outside acts (fleet.play schedule) := by
  induction schedule generalizing fleet with
  | nil => exact ⟨[], .refl⟩
  | cons pass rest ih =>
      obtain ⟨front, advanced⟩ := advance_orderly Outside (current pass List.mem_cons_self)
      have current_rest : ∀ later ∈ rest, (fleet.advance pass).Current later :=
        fun later member => (current_congr (fleet.advance_subjects pass)).2
          (current later (List.mem_cons_of_mem _ member))
      obtain ⟨back, played⟩ := ih current_rest
      exact ⟨front ++ back, advanced.append played⟩

/-- Starts a pass over an object and gives it a number of answers. -/
def pursue (fleet : Fleet) (subject : Subject) (count : Nat) : Fleet :=
  (fleet.launch [subject]).play (List.replicate count fleet.passes.length)

theorem subjects_launch (fleet : Fleet) (subject : Subject) :
    (fleet.launch [subject]).subjects = fleet.subjects ++ [subject] :=
  fleet.subjects_start subject

theorem subjects_launch_self (fleet : Fleet) (subject : Subject) :
    (fleet.launch [subject]).subjects[fleet.passes.length]? = some subject := by
  have length_eq : fleet.subjects.length = fleet.passes.length := by simp [subjects]
  rw [subjects_launch, ← length_eq, List.getElem?_append_right (Nat.le_refl _), Nat.sub_self,
    List.getElem?_cons_zero]

theorem current_launch (fleet : Fleet) (subject : Subject) :
    (fleet.launch [subject]).Current fleet.passes.length := by
  refine ⟨subject, fleet.subjects_launch_self subject, ?_⟩
  rw [subjects_launch, List.drop_eq_nil_of_le (by simp [subjects])]
  exact List.not_mem_nil

/-- A pass that was just started may be given answers. -/
theorem play_launch_orderly (Outside : Store → Store → Prop) (fleet : Fleet) (subject : Subject)
    (count : Nat) :
    ∃ acts, (fleet.launch [subject]).Orderly Outside acts (fleet.pursue subject count) :=
  play_orderly Outside fun _ member =>
    List.eq_of_mem_replicate member ▸ fleet.current_launch subject

theorem pursue_orderly (Outside : Store → Store → Prop) (fleet : Fleet) (subject : Subject)
    (count : Nat) : ∃ acts, fleet.Orderly Outside acts (fleet.pursue subject count) := by
  obtain ⟨answers, played⟩ := fleet.play_launch_orderly Outside subject count
  have started : fleet.Orderly Outside [.start subject] (fleet.launch [subject]) :=
    .step .refl (.start fleet subject) fun _ _ _ answers => nomatch answers
  exact ⟨_, started.append played⟩

/-! ## Passes on their own terms -/

/-- Every current pass secures its goal on its terms, from the store as it is. -/
def CurrentSecured (terms : Subject → Terms Store)
    (goal : Nat → Except PassError Outcome → Store → Prop) (fleet : Fleet) : Prop :=
  ∀ (pass : Nat) (running : Running), fleet.passes[pass]? = some running → fleet.Current pass →
    running.rest.Secures (terms running.subject) (goal pass) fleet.store

variable {terms : Subject → Terms Store} {goal : Nat → Except PassError Outcome → Store → Prop}

theorem CurrentSecured.start (secured : fleet.CurrentSecured terms goal)
    (secures : subject.pass.Secures (terms subject) (goal fleet.passes.length) fleet.store) :
    CurrentSecured terms goal { fleet with passes := fleet.passes ++ [subject.start] } := by
  intro pass running found current
  by_cases within : pass < fleet.passes.length
  · rw [List.getElem?_append_left within] at found
    exact secured pass running found (current.of_start within)
  · have last : pass = fleet.passes.length := by
      have bound := (List.getElem?_eq_some_iff.1 found).1
      simp only [List.length_append, List.length_singleton] at bound
      omega
    subst last
    rw [List.getElem?_append_right (Nat.le_refl _), Nat.sub_self] at found
    cases found
    exact secures

theorem CurrentSecured.outside (secured : fleet.CurrentSecured terms goal) {after : Store}
    (relied : ∀ subject, (terms subject).rely fleet.store after) :
    CurrentSecured terms goal { fleet with store := after } :=
  fun pass running found current =>
    (secured pass running found current).of_rely (relied running.subject)

/-- An answer to a current pass keeps the terms of the pass, and all current passes stay secure if
those over other objects rely on no more than that. -/
theorem CurrentSecured.answer (secured : fleet.CurrentSecured terms goal) {query : PassQuery}
    {next : query.Answer → Pass (Except PassError Outcome)} {answer : query.Answer} {after : Store}
    (at_query : fleet.passes[pass]? = some ⟨subject, .ask query next⟩)
    (answered : query.Answered fleet.store answer after) (current : fleet.Current pass)
    (sound : (terms subject).invariant fleet.store)
    (relied : ∀ other, other ≠ subject → (terms subject).keeps fleet.store after →
      (terms other).rely fleet.store after) :
    (terms subject).invariant after ∧ (terms subject).keeps fleet.store after ∧
      CurrentSecured terms goal ⟨after, fleet.passes.set pass ⟨subject, next answer⟩⟩ := by
  obtain ⟨sound_after, keeps, secures⟩ := secured pass _ at_query current fleet.store sound
    ((terms subject).rely_refl _) answer after answered
  have same_subjects : Fleet.subjects ⟨after, fleet.passes.set pass ⟨subject, next answer⟩⟩ =
      fleet.subjects := map_subject_set at_query (next answer)
  refine ⟨sound_after, keeps, fun other running found current_other => ?_⟩
  have current_before : fleet.Current other := (current_congr same_subjects).1 current_other
  by_cases same : other = pass
  · subst same
    have within : other < fleet.passes.length := (List.getElem?_eq_some_iff.1 at_query).1
    rw [List.getElem?_set_self within] at found
    cases found
    exact secures
  · rw [List.getElem?_set_ne (Ne.symm same)] at found
    have differs : running.subject ≠ subject := by
      intro same_subject
      have found_subject := subjects_at found
      rw [same_subject] at found_subject
      exact same (current_before.unique current found_subject (subjects_at at_query))
    exact (secured other running found current_before).of_rely (relied _ differs keeps)

end BareMetal.Fleet
