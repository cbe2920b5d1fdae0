import BareMetal.Object.Selector

/-!
# What label selectors ask for

A selector asks for all its labels with their values and for all its requirements, each by what its
operator means.  It is malformed if a requirement is, and the first such requirement is the one that
is told of.
-/

namespace BareMetal

namespace LabelOperator

/-- The word for an operator. -/
def word : LabelOperator → String
  | isIn => "In"
  | notIn => "NotIn"
  | .exists => "Exists"
  | doesNotExist => "DoesNotExist"

/-- Only its word stands for an operator. -/
theorem ofWord?_eq_some_iff {operator : LabelOperator} {text : String} :
    ofWord? text = some operator ↔ text = operator.word := by
  constructor
  · intro known
    unfold ofWord? at known
    split at known <;> cases known <;> rfl
  · rintro rfl
    cases operator <;> rfl

end LabelOperator

/-! ## Requirements -/

namespace LabelRequirement

/-- The operator of a requirement is one of the four that there are. -/
def HasOperator (requirement : LabelRequirement) : Prop :=
  requirement.operator = "In" ∨ requirement.operator = "NotIn" ∨
    requirement.operator = "Exists" ∨ requirement.operator = "DoesNotExist"

instance (requirement : LabelRequirement) : Decidable requirement.HasOperator :=
  inferInstanceAs (Decidable (_ ∨ _ ∨ _ ∨ _))

/-- A requirement can be looked up: it names a label, its operator is known, and it has values
exactly if the operator compares the label with some. -/
structure IsWellFormed (requirement : LabelRequirement) : Prop where
  /-- A label is named. -/
  named : requirement.key ≠ ""
  /-- The operator is known. -/
  known : requirement.HasOperator
  /-- There are values to compare with. -/
  valued : requirement.operator = "In" ∨ requirement.operator = "NotIn" → requirement.values ≠ []
  /-- There are no values where nothing is compared. -/
  unvalued : requirement.operator = "Exists" ∨ requirement.operator = "DoesNotExist" →
    requirement.values = []

/-- What is told of a requirement that is not well formed. -/
def fault (requirement : LabelRequirement) : SelectorFault :=
  if requirement.HasOperator then .invalidRequirement requirement
  else .unknownOperator requirement

/-- Labels are as a requirement asks for. -/
structure Holds (requirement : LabelRequirement) (labels : Labels) : Prop where
  /-- The label has one of the values. -/
  isIn : requirement.operator = "In" →
    ∃ value ∈ requirement.values, labels.get? requirement.key = some value
  /-- The label is missing or has none of the values. -/
  notIn : requirement.operator = "NotIn" →
    ∀ value ∈ requirement.values, labels.get? requirement.key ≠ some value
  /-- The label is there. -/
  present : requirement.operator = "Exists" → ∃ value, labels.get? requirement.key = some value
  /-- The label is missing. -/
  missing : requirement.operator = "DoesNotExist" → labels.get? requirement.key = none

variable {requirement : LabelRequirement} {operator : LabelOperator} {labels : Labels}

theorem hasOperator_iff : requirement.HasOperator ↔
    ∃ operator, LabelOperator.ofWord? requirement.operator = some operator := by
  simp only [LabelOperator.ofWord?_eq_some_iff]
  constructor
  · rintro (word | word | word | word)
    · exact ⟨.isIn, word⟩
    · exact ⟨.notIn, word⟩
    · exact ⟨.exists, word⟩
    · exact ⟨.doesNotExist, word⟩
  · rintro ⟨operator, word⟩
    cases operator <;> simp [HasOperator, word, LabelOperator.word]

/-- A requirement with a known operator is well formed if its values fit the operator and it names
a label. -/
theorem isWellFormed_iff_of_operator (word : requirement.operator = operator.word) :
    requirement.IsWellFormed ↔
      (operator.fits requirement.values && !requirement.key.isEmpty) = true := by
  have known : requirement.HasOperator :=
    hasOperator_iff.2 ⟨operator, LabelOperator.ofWord?_eq_some_iff.2 word⟩
  rw [Bool.and_eq_true_iff]
  constructor
  · rintro ⟨named, _, valued, unvalued⟩
    refine ⟨?_, by simpa using named⟩
    cases operator <;> simp_all [LabelOperator.word, LabelOperator.fits]
  · rintro ⟨fits, named⟩
    refine ⟨by simpa using named, known, ?_, ?_⟩
    all_goals cases operator <;> simp_all [LabelOperator.word, LabelOperator.fits]

/-- A requirement is refused exactly if it is not well formed. -/
theorem operator?_eq_error_iff {fault : SelectorFault} :
    requirement.operator? = .error fault ↔
      ¬requirement.IsWellFormed ∧ fault = requirement.fault := by
  unfold operator? LabelRequirement.fault
  cases word : LabelOperator.ofWord? requirement.operator with
  | none =>
      have unknown : ¬requirement.HasOperator := fun known => by
        obtain ⟨operator, known⟩ := hasOperator_iff.1 known
        exact nomatch word.symm.trans known
      have malformed : ¬requirement.IsWellFormed := fun formed => unknown formed.known
      simp [unknown, malformed, eq_comm]
  | some operator =>
      have known : requirement.HasOperator := hasOperator_iff.2 ⟨operator, word⟩
      have formed_iff :=
        isWellFormed_iff_of_operator (LabelOperator.ofWord?_eq_some_iff.1 word)
      rw [if_pos known]
      dsimp only
      split
      · rename_i fits
        simp [formed_iff.2 fits]
      · rename_i unfit
        simp [mt formed_iff.1 unfit, eq_comm]

/-- What a requirement asks for is decided by its operator. -/
theorem holds_iff_of_operator (word : requirement.operator = operator.word) :
    requirement.Holds labels ↔
      operator.isMet requirement.values (labels.get? requirement.key) = true := by
  have holds_iff : requirement.Holds labels ↔ _ ∧ _ ∧ _ ∧ _ :=
    ⟨fun holds => ⟨holds.isIn, holds.notIn, holds.present, holds.missing⟩,
      fun ⟨isIn, notIn, present, missing⟩ => ⟨isIn, notIn, present, missing⟩⟩
  rw [holds_iff, word]
  cases operator <;> cases labels.get? requirement.key <;>
    simp [LabelOperator.word, LabelOperator.isMet, List.forall_mem_ne]

/-- The fault of a requirement that is refused. -/
def ownFault? (requirement : LabelRequirement) : Option SelectorFault :=
  match requirement.operator? with
  | .error fault => some fault
  | .ok _ => none

theorem ownFault?_eq_some_iff {fault : SelectorFault} :
    requirement.ownFault? = some fault ↔
      ¬requirement.IsWellFormed ∧ fault = requirement.fault := by
  rw [← operator?_eq_error_iff, ownFault?]
  cases requirement.operator? <;> simp

theorem ownFault?_eq_none_iff : requirement.ownFault? = none ↔ requirement.IsWellFormed := by
  rw [Option.eq_none_iff_forall_ne_some]
  simp only [ne_eq, ownFault?_eq_some_iff]
  constructor
  · exact fun faultless =>
      Classical.byContradiction fun malformed => faultless _ ⟨malformed, rfl⟩
  · exact fun formed _ faulty => faulty.1 formed

/-- A well-formed requirement is met by the labels that are as it asks for. -/
theorem isMet_iff (formed : requirement.IsWellFormed) :
    requirement.isMet labels = true ↔ requirement.Holds labels := by
  obtain ⟨operator, known⟩ := hasOperator_iff.1 formed.known
  have word := LabelOperator.ofWord?_eq_some_iff.1 known
  have fits := (isWellFormed_iff_of_operator word).1 formed
  have accepted : requirement.operator? = .ok operator := by
    rw [operator?, known]
    exact if_pos fits
  rw [isMet, accepted, holds_iff_of_operator word]

end LabelRequirement

/-! ## Selectors -/

namespace Selector

/-- The requirements of a selector up to one are well formed, and that one has a fault. -/
def FirstFault (selector : Selector) (fault : SelectorFault) : Prop :=
  ∃ front requirement back, selector.matchExpressions = front ++ requirement :: back ∧
    (∀ earlier ∈ front, earlier.IsWellFormed) ∧ ¬requirement.IsWellFormed ∧
      fault = requirement.fault

/-- Labels are as a selector asks for. -/
structure Holds (selector : Selector) (labels : Labels) : Prop where
  /-- All labels that are to match have their values. -/
  matching : ∀ key value, selector.matchLabels.get? key = some value →
    labels.get? key = some value
  /-- All requirements are met. -/
  meeting : ∀ requirement ∈ selector.matchExpressions, requirement.Holds labels

variable {selector : Selector} {labels : Labels} {fault : SelectorFault}

theorem faultIn_eq_findSome? (requirements : List LabelRequirement) :
    faultIn requirements = requirements.findSome? LabelRequirement.ownFault? := by
  induction requirements with
  | nil => rfl
  | cons requirement rest ih =>
      rw [faultIn, List.findSome?_cons, LabelRequirement.ownFault?, ih]
      cases requirement.operator? <;> rfl

/-- The first requirement that is not well formed makes a selector malformed. -/
theorem fault?_eq_some_iff : selector.fault? = some fault ↔ selector.FirstFault fault := by
  rw [fault?, faultIn_eq_findSome?, List.findSome?_eq_some_iff]
  simp only [LabelRequirement.ownFault?_eq_some_iff, LabelRequirement.ownFault?_eq_none_iff]
  constructor
  · rintro ⟨front, requirement, back, splits, ⟨malformed, told⟩, formed⟩
    exact ⟨front, requirement, back, splits, formed, malformed, told⟩
  · rintro ⟨front, requirement, back, splits, formed, malformed, told⟩
    exact ⟨front, requirement, back, splits, ⟨malformed, told⟩, formed⟩

theorem fault?_eq_none_iff : selector.fault? = none ↔
    ∀ requirement ∈ selector.matchExpressions, requirement.IsWellFormed := by
  simp only [fault?, faultIn_eq_findSome?, List.findSome?_eq_none_iff,
    LabelRequirement.ownFault?_eq_none_iff]

/-- A selector that is not malformed accepts the labels that are as it asks for. -/
theorem accepts_iff (faultless : selector.fault? = none) :
    selector.accepts labels = true ↔ selector.Holds labels := by
  have formed := fault?_eq_none_iff.1 faultless
  rw [accepts, Bool.and_eq_true_iff, List.all_eq_true, List.all_eq_true]
  constructor
  · rintro ⟨matched, met⟩
    constructor
    · intro key value found
      exact beq_iff_eq.1 (matched (key, value) (Dict.get?_eq_some_iff.1 found))
    · intro requirement member
      exact (LabelRequirement.isMet_iff (formed requirement member)).1 (met requirement member)
  · rintro ⟨matching, meeting⟩
    constructor
    · rintro ⟨key, value⟩ member
      exact beq_iff_eq.2 (matching key value (Dict.get?_eq_some_iff.2 member))
    · intro requirement member
      exact (LabelRequirement.isMet_iff (formed requirement member)).2
        (meeting requirement member)

end Selector

end BareMetal
