import BareMetal.Pass.Program

/-!
# Programs that heed what they were told

What a program asks may depend on the answers that it got before, and an answer may depend on what
was asked before.  A program heeds a rule if the rule permits each of its queries, whatever the
answers are.
-/

namespace BareMetal

/-- A query with the answer that it got. -/
structure Told (Query : Type) (Answer : Query → Type) where
  /-- What was asked. -/
  query : Query
  /-- What was answered. -/
  answer : Answer query

namespace Program

variable {Query : Type} {Answer : Query → Type} {α β : Type}

/-- What a program ends with, and what it was told by then, if each answer may depend on what it was
told before. -/
def play (react : List (Told Query Answer) → (query : Query) → Answer query) :
    Program Query Answer α → List (Told Query Answer) → α × List (Told Query Answer)
  | done value, told => (value, told)
  | ask query next, told =>
      (next (react told query)).play react (told ++ [⟨query, react told query⟩])

theorem play_bind (react : List (Told Query Answer) → (query : Query) → Answer query)
    (program : Program Query Answer β) (rest : β → Program Query Answer α)
    (told : List (Told Query Answer)) :
    (program >>= rest).play react told =
      (rest (program.play react told).1).play react (program.play react told).2 := by
  change (program.bind rest).play react told = _
  induction program generalizing told with
  | done value => rfl
  | ask query next ih => exact ih _ _

/-- Each query of a program is permitted by what it was told before, and its value meets the goal
with all that it was told. -/
def Heeds (permits : List (Told Query Answer) → Query → Prop)
    (goal : α → List (Told Query Answer) → Prop) :
    Program Query Answer α → List (Told Query Answer) → Prop
  | done value, told => goal value told
  | ask query next, told => permits told query ∧
      ∀ answer, (next answer).Heeds permits goal (told ++ [⟨query, answer⟩])

/-- Each query of a program is allowed, whatever it was told. -/
def AsksOnly (allowed : Query → Prop) : Program Query Answer α → Prop
  | done _ => True
  | ask query next => allowed query ∧ ∀ answer, (next answer).AsksOnly allowed

section

variable {permits : List (Told Query Answer) → Query → Prop} {allowed : Query → Prop}
  {told : List (Told Query Answer)}

theorem Heeds.weaken {goal weaker : α → List (Told Query Answer) → Prop}
    {program : Program Query Answer α} (heeds : program.Heeds permits goal told)
    (weaken : ∀ value later, told <+: later → goal value later → weaker value later) :
    program.Heeds permits weaker told := by
  induction program generalizing told with
  | done value => exact weaken value told List.prefix_rfl heeds
  | ask query next ih =>
      refine ⟨heeds.1, fun answer => ih answer (heeds.2 answer) fun value later grows => ?_⟩
      exact weaken value later ((List.prefix_append told _).trans grows)

/-- A program followed by another heeds a rule if each does, the second with what the first was
told. -/
theorem heeds_bind {goal : α → List (Told Query Answer) → Prop}
    {program : Program Query Answer β} {rest : β → Program Query Answer α} :
    (program.bind rest).Heeds permits goal told ↔
      program.Heeds permits (fun value => (rest value).Heeds permits goal) told := by
  induction program generalizing told with
  | done value => rfl
  | ask query next ih => exact and_congr_right fun _ => forall_congr' fun answer => ih answer

theorem AsksOnly.bind {program : Program Query Answer β} {rest : β → Program Query Answer α}
    (asks : program.AsksOnly allowed) (asks_rest : ∀ value, (rest value).AsksOnly allowed) :
    (program.bind rest).AsksOnly allowed := by
  induction program with
  | done value => exact asks_rest value
  | ask query next ih => exact ⟨asks.1, fun answer => ih answer (asks.2 answer)⟩

theorem AsksOnly.weaken {wider : Query → Prop} {program : Program Query Answer α}
    (asks : program.AsksOnly allowed) (weaken : ∀ query, allowed query → wider query) :
    program.AsksOnly wider := by
  induction program with
  | done value => trivial
  | ask query next ih => exact ⟨weaken query asks.1, fun answer => ih answer (asks.2 answer)⟩

/-- A program that asks only what is permitted anyway heeds the rule. -/
theorem AsksOnly.heeds {program : Program Query Answer α} (asks : program.AsksOnly allowed)
    (permitted : ∀ told query, allowed query → permits told query)
    (told : List (Told Query Answer)) : program.Heeds permits (fun _ _ => True) told := by
  induction program generalizing told with
  | done value => trivial
  | ask query next ih =>
      exact ⟨permitted told query asks.1, fun answer => ih answer (asks.2 answer) _⟩

end

end Program

end BareMetal
