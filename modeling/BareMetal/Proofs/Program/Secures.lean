import BareMetal.Pass.Program

/-!
# Programs in shared surroundings

A program asks one thing after the other, and between two queries others may change its
surroundings.  A program secures a goal on given terms if each of its queries keeps the invariant
and what the others rely on, and if its value meets the goal, whatever the others do within the
terms.
-/

namespace BareMetal

/-- The terms on which a program shares its surroundings with others. -/
structure Terms (World : Type) where
  /-- What holds at all times. -/
  invariant : World → Prop
  /-- What the others may do between two queries. -/
  rely : World → World → Prop
  /-- What the program may do with a query. -/
  keeps : World → World → Prop
  /-- The others need not do anything. -/
  rely_refl : ∀ world, rely world world
  /-- The others may act several times. -/
  rely_trans : ∀ {first second third}, rely first second → rely second third → rely first third
  /-- A query need not change anything. -/
  keeps_refl : ∀ world, keeps world world

/-- A fact that the others leave as it is. -/
def Terms.Stable {World : Type} (terms : Terms World) (fact : World → Prop) : Prop :=
  ∀ {now later}, terms.invariant later → terms.rely now later → fact now → fact later

namespace Program

variable {Query : Type} {Answer : Query → Type} {World : Type} {α β : Type}

/-- On these terms every query of a program keeps the invariant and what others rely on, and its
value meets the goal. -/
def Secures (answers : (query : Query) → World → Answer query → World → Prop)
    (terms : Terms World) (goal : α → World → Prop) : Program Query Answer α → World → Prop
  | done value, world => ∀ later, terms.invariant later → terms.rely world later →
      goal value later
  | ask query next, world => ∀ now, terms.invariant now → terms.rely world now →
      ∀ answer after, answers query now answer after →
        terms.invariant after ∧ terms.keeps now after ∧
          (next answer).Secures answers terms goal after

section

variable {answers : (query : Query) → World → Answer query → World → Prop}
  {terms : Terms World} {goal : α → World → Prop}

/-- What a program secures it still secures after the others acted. -/
theorem Secures.of_rely {program : Program Query Answer α} {world later : World}
    (secures : program.Secures answers terms goal world) (acted : terms.rely world later) :
    program.Secures answers terms goal later := by
  cases program with
  | done value =>
      exact fun last sound reached => secures last sound (terms.rely_trans acted reached)
  | ask query next =>
      exact fun now sound reached => secures now sound (terms.rely_trans acted reached)

/-- What a program secures holds of weaker goals too. -/
theorem Secures.weaken {weaker : α → World → Prop} {program : Program Query Answer α}
    {world : World} (secures : program.Secures answers terms goal world)
    (weaken : ∀ value later, terms.invariant later → goal value later → weaker value later) :
    program.Secures answers terms weaker world := by
  induction program generalizing world with
  | done value =>
      exact fun later sound acted => weaken value later sound (secures later sound acted)
  | ask query next ih =>
      intro now sound acted answer after answered
      obtain ⟨sound_after, keeps, rest⟩ := secures now sound acted answer after answered
      exact ⟨sound_after, keeps, ih answer rest⟩

/-- Two goals that a program secures it secures together. -/
theorem Secures.and {other : α → World → Prop} {program : Program Query Answer α} {world : World}
    (secures : program.Secures answers terms goal world)
    (secures_too : program.Secures answers terms other world) :
    program.Secures answers terms (fun value later => goal value later ∧ other value later)
      world := by
  induction program generalizing world with
  | done value =>
      exact fun later sound acted => ⟨secures later sound acted, secures_too later sound acted⟩
  | ask query next ih =>
      intro now sound acted answer after answered
      obtain ⟨sound_after, keeps, rest⟩ := secures now sound acted answer after answered
      obtain ⟨_, _, rest_too⟩ := secures_too now sound acted answer after answered
      exact ⟨sound_after, keeps, ih answer rest rest_too⟩

/-- What the value of a program meets it meets for good. -/
theorem Secures.always {program : Program Query Answer α} {world : World}
    (secures : program.Secures answers terms goal world) :
    program.Secures answers terms (fun value now => ∀ later, terms.invariant later →
      terms.rely now later → goal value later) world := by
  induction program generalizing world with
  | done value =>
      exact fun now _ acted later sound acted_again =>
        secures later sound (terms.rely_trans acted acted_again)
  | ask query next ih =>
      intro now sound acted answer after answered
      obtain ⟨sound_after, keeps, rest⟩ := secures now sound acted answer after answered
      exact ⟨sound_after, keeps, ih answer rest⟩

/-- To secure a goal it is enough to secure it from whatever the others leave. -/
theorem secures_of_forall {program : Program Query Answer α} {world : World}
    (secures : ∀ later, terms.invariant later → terms.rely world later →
      program.Secures answers terms goal later) : program.Secures answers terms goal world := by
  cases program with
  | done value =>
      exact fun later sound acted => secures later sound acted later sound (terms.rely_refl later)
  | ask query next =>
      exact fun now sound acted => secures now sound acted now sound (terms.rely_refl now)

/-- A program followed by another secures what the second secures from wherever the first ends. -/
theorem secures_bind {program : Program Query Answer β} {rest : β → Program Query Answer α}
    {world : World} :
    (program.bind rest).Secures answers terms goal world ↔
      program.Secures answers terms (fun value => (rest value).Secures answers terms goal)
        world := by
  induction program generalizing world with
  | done value =>
      exact ⟨fun secures later _ acted => secures.of_rely acted, secures_of_forall⟩
  | ask query next ih =>
      constructor
      · intro secures now sound acted answer after answered
        obtain ⟨sound_after, keeps, secured⟩ := secures now sound acted answer after answered
        exact ⟨sound_after, keeps, (ih answer).1 secured⟩
      · intro secures now sound acted answer after answered
        obtain ⟨sound_after, keeps, secured⟩ := secures now sound acted answer after answered
        exact ⟨sound_after, keeps, (ih answer).2 secured⟩

end

end Program

end BareMetal
