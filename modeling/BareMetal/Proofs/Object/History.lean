import BareMetal.Proofs.Claim.Sequential
import BareMetal.Proofs.Conditions

/-!
# Histories of conditions

A list of conditions that began empty recounts all that was reported to it: of each type it holds
what was reported last, dated as the first report in the run of reports of the same status that the
last one ends.  What was reported of one type does not depend on when something was reported of
another.  Reports that are made again are no news, so a machine whose binding is as it was is not
written again.
-/

namespace BareMetal.Condition

variable {conditions others reports : List Condition} {report first last : Condition}

/-! ## The last run of reports -/

/-- A condition that came to be what it is when another one did. -/
def datedAs (condition other : Condition) : Condition :=
  { condition with lastTransitionTime := other.lastTransitionTime }

/-- The reports end in an unbroken run of one status that begins and ends with the given ones. -/
def EndsInRun (reports : List Condition) (first last : Condition) : Prop :=
  ∃ front run, reports = front ++ run ∧ run.head? = some first ∧ run.getLast? = some last ∧
    (∀ report ∈ run, report.status = last.status) ∧
    ∀ before, front.getLast? = some before → before.status ≠ last.status

theorem endsInRun_singleton (report : Condition) : EndsInRun [report] report report :=
  ⟨[], [report], rfl, rfl, rfl, by simp, by simp⟩

theorem EndsInRun.getLast? (ends : EndsInRun reports first last) :
    reports.getLast? = some last := by
  obtain ⟨front, run, rfl, -, found, -, -⟩ := ends
  rw [List.getLast?_append, found]
  rfl

/-- A report of the status of the last one prolongs the run. -/
theorem EndsInRun.prolong (ends : EndsInRun reports first last)
    (same : report.status = last.status) : EndsInRun (reports ++ [report]) first report := by
  obtain ⟨front, run, rfl, head, -, alike, broken⟩ := ends
  refine ⟨front, run ++ [report], by simp, ?_, by simp, ?_, ?_⟩
  · rw [List.head?_append, head]
    rfl
  · intro other member
    rcases List.mem_append.1 member with member | member
    · rw [alike other member, same]
    · rw [List.mem_singleton.1 member]
  · rw [same]
    exact broken

/-- A report of another status begins a run of its own. -/
theorem EndsInRun.turn (ends : EndsInRun reports first last)
    (turned : last.status ≠ report.status) : EndsInRun (reports ++ [report]) report report := by
  refine ⟨reports, [report], rfl, rfl, rfl, by simp, ?_⟩
  intro before found
  obtain rfl : last = before := Option.some.inj (ends.getLast?.symm.trans found)
  exact turned

/-- An entry that was not there before the reports is what the last of them said, dated as the
first in its run. -/
theorem foldl_settleFirst_nil (some_made : reports ≠ []) :
    ∃ first last, EndsInRun reports first last ∧
      reports.foldl settleFirst [] = [last.datedAs first] := by
  -- From the end of the list, because the last report prolongs the last run or begins another.
  induction reports using List.reverseRecOn with
  | nil => contradiction
  | append_singleton front report ih =>
      rw [List.foldl_append, List.foldl_cons, List.foldl_nil]
      by_cases none_before : front = []
      · subst none_before
        exact ⟨report, report, endsInRun_singleton report, rfl⟩
      · obtain ⟨first, last, ends, settled⟩ := ih none_before
        rw [settled, settleFirst]
        by_cases same : last.status = report.status
        · exact ⟨first, report, ends.prolong same.symm, by simp [settle, datedAs, same]⟩
        · exact ⟨report, report, ends.turn same, by simp [settle, datedAs, same]⟩

/-! ## Order -/

/-- A condition stands strictly before another: `Ready` in front, the others by type. -/
def Precedes (earlier later : Condition) : Prop :=
  later.type ≠ readyType ∧ (earlier.type = readyType ∨ earlier.type < later.type)

theorem precedes_of_inOrder (may_precede : first.inOrder last = true)
    (differ : first.type ≠ last.type) : first.Precedes last := by
  unfold inOrder at may_precede
  by_cases ready : first.type = readyType
  · exact ⟨fun ready_too => differ (ready.trans ready_too.symm), .inl ready⟩
  · by_cases ready_last : last.type = readyType
    · simp [ready, ready_last] at may_precede
    · simp only [ready, ready_last, if_false, decide_eq_true_eq] at may_precede
      exact ⟨ready_last, .inr (Std.lt_of_le_of_ne may_precede differ)⟩

/-- In a list that is in order and has no two entries of a type, every entry stands strictly before
all that follow. -/
theorem pairwise_precedes (ordered : Ordered conditions)
    (single : ∀ type, (ofType type conditions).length ≤ 1) : conditions.Pairwise Precedes := by
  induction conditions with
  | nil => exact .nil
  | cons first rest ih =>
      have single_rest : ∀ type, (ofType type rest).length ≤ 1 := by
        intro type
        have bound := single type
        rw [ofType_cons] at bound
        split at bound
        · rw [List.length_cons] at bound
          omega
        · exact bound
      refine .cons ?_ (ih ordered.of_cons single_rest)
      intro last member
      apply precedes_of_inOrder (List.rel_of_pairwise_cons ordered member)
      intro same
      have bound := single first.type
      rw [ofType_cons, if_pos rfl, List.length_cons] at bound
      have present : last ∈ ofType first.type rest := by simp [ofType, member, same]
      have := List.length_pos_of_mem present
      omega

/-! ## What a list recounts -/

/-- A list of conditions recounts what was reported. -/
structure Recounts (entries reports : List Condition) : Prop where
  /-- `Ready` comes first and the other types ascend strictly, so there is one entry per type. -/
  ascending : entries.Pairwise Precedes
  /-- There are entries of just the types that were reported. -/
  types : ∀ type, (∃ entry ∈ entries, entry.type = type) ↔ ∃ report ∈ reports, report.type = type
  /-- An entry is the last report of its type, dated as the first in the run of that one. -/
  latest : ∀ entry ∈ entries, ∃ first last,
    EndsInRun (ofType entry.type reports) first last ∧ entry = last.datedAs first

theorem mem_ofType {type : String} :
    report ∈ ofType type conditions ↔ report ∈ conditions ∧ report.type = type := by
  simp [ofType]

theorem ofType_ne_nil {type : String} :
    ofType type conditions ≠ [] ↔ ∃ report ∈ conditions, report.type = type := by
  simp [ofType]

/-- A list that began empty holds of each type that was reported just the last report, dated as the
first in its run. -/
theorem ofType_foldl_set_nil {type : String} (reported : ofType type reports ≠ []) :
    ∃ first last, EndsInRun (ofType type reports) first last ∧
      ofType type (reports.foldl set []) = [last.datedAs first] := by
  rw [ofType_foldl_set]
  exact foldl_settleFirst_nil reported

theorem ofType_foldl_set_nil_of_eq_nil {type : String} (unreported : ofType type reports = []) :
    ofType type (reports.foldl set []) = [] := by
  rw [ofType_foldl_set, unreported]
  rfl

theorem recounts_foldl_set (reports : List Condition) :
    Recounts (reports.foldl set []) reports where
  ascending := by
    refine pairwise_precedes (ordered_foldl_set .nil reports) fun type => ?_
    by_cases unreported : ofType type reports = []
    · simp [ofType_foldl_set_nil_of_eq_nil unreported]
    · obtain ⟨first, last, -, entries⟩ := ofType_foldl_set_nil unreported
      simp [entries]
  types := by
    intro type
    rw [← ofType_ne_nil, ← ofType_ne_nil]
    by_cases unreported : ofType type reports = []
    · simp [unreported, ofType_foldl_set_nil_of_eq_nil unreported]
    · obtain ⟨first, last, -, entries⟩ := ofType_foldl_set_nil unreported
      simp [unreported, entries]
  latest := by
    intro entry member
    have present : entry ∈ ofType entry.type (reports.foldl set []) := mem_ofType.2 ⟨member, rfl⟩
    have reported : ofType entry.type reports ≠ [] := by
      intro unreported
      rw [ofType_foldl_set_nil_of_eq_nil unreported] at present
      cases present
    obtain ⟨first, last, ends, entries⟩ := ofType_foldl_set_nil reported
    rw [entries, List.mem_singleton] at present
    exact ⟨first, last, ends, present⟩

/-! ## Reports of several types -/

theorem mem_of_ofType_eq (same : ∀ type, ofType type reports = ofType type others)
    (member : report ∈ reports) : report ∈ others := by
  have present : report ∈ ofType report.type reports := mem_ofType.2 ⟨member, rfl⟩
  rw [same] at present
  exact (mem_ofType.1 present).1

/-- Reports come to the same in any order that keeps, of each type, the order they have. -/
theorem foldl_set_congr (conditions : List Condition)
    (same : ∀ type, ofType type reports = ofType type others) :
    reports.foldl set conditions = others.foldl set conditions := by
  have equal_of_said : ∀ {reports others : List Condition},
      (∀ type, ofType type reports = ofType type others) →
      (∀ report ∈ reports, Reports conditions report) →
      reports.foldl set conditions = others.foldl set conditions := by
    intro reports others same said
    rw [foldl_set_of_reports said, foldl_set_of_reports]
    exact fun report member => said report (mem_of_ofType_eq (fun type => (same type).symm) member)
  rcases foldl_set_cases conditions reports with said | ordered
  · exact equal_of_said same said
  · rcases foldl_set_cases conditions others with said | ordered_others
    · exact (equal_of_said (fun type => (same type).symm) said).symm
    · apply eq_of_ordered ordered ordered_others
      intro type
      rw [ofType_foldl_set, ofType_foldl_set, same]

theorem set_comm (conditions : List Condition) (differ : first.type ≠ last.type) :
    set (set conditions first) last = set (set conditions last) first := by
  have same : ∀ type, ofType type [first, last] = ofType type [last, first] := by
    intro type
    by_cases is_first : first.type = type
    · have not_last : last.type ≠ type := fun is_last => differ (is_first.trans is_last.symm)
      simp [ofType_cons, is_first, not_last]
    · simp [ofType_cons, is_first]
  exact foldl_set_congr conditions same

/-- A list of conditions that began empty recounts all reports that were made, and on any list
reports of different types may be made in either order. -/
theorem conditions_recount_reports :
    (∀ reports : List Condition, Recounts (reports.foldl set []) reports) ∧
      ∀ (conditions : List Condition) (first second : Condition), first.type ≠ second.type →
        set (set conditions first) second = set (set conditions second) first :=
  ⟨recounts_foldl_set, fun conditions _ _ differ => set_comm conditions differ⟩

end BareMetal.Condition

namespace BareMetal.Laboratory

/-- A second of the first minute. -/
def second (count : Fin 60) : Timestamp :=
  { Fleet.epoch with
    second := count
    isTimeOfDay := ⟨by decide, by decide, count.isLt, by split <;> decide⟩ }

/-- A server that becomes unready and stays so for another cause. -/
def history : List Condition :=
  [.holding "Ready" (second 0),
    .holding "Attached" (second 1),
    .failing "Ready" "Waiting" .info "no power" (second 2),
    .failing "Ready" "Waiting" .info "no network" (second 3)]

end BareMetal.Laboratory

namespace BareMetal.Condition

open Laboratory in
/-- The cause is the later one and the time that of the earlier one. -/
theorem conditions_recount_reports_unready :
    history.foldl set [] =
        [.failing "Ready" "Waiting" .info "no network" (second 2),
          .holding "Attached" (second 1)] ∧
      Recounts (history.foldl set []) history ∧
      set (set history (.holding "Ready" (second 4))) (.holding "Attached" (second 5)) =
        set (set history (.holding "Attached" (second 5))) (.holding "Ready" (second 4)) := by
  refine ⟨?_, conditions_recount_reports.1 history,
    conditions_recount_reports.2 history _ _ (by decide)⟩
  simp [history, set, find?, amend, settle, sameReport, inOrder, readyType, holding, failing,
    List.mergeSort]

/-! ## The same reports again -/

/-- Reports that are made again change nothing. -/
theorem foldl_set_foldl_set (conditions reports : List Condition) :
    reports.foldl set (reports.foldl set conditions) = reports.foldl set conditions := by
  rcases foldl_set_cases conditions reports with said | ordered
  · rw [foldl_set_of_reports said, foldl_set_of_reports said]
  · apply eq_of_ordered (ordered_foldl_set ordered reports) ordered
    intro type
    rw [ofType_foldl_set, ofType_foldl_set]
    by_cases unreported : ofType type reports = []
    · simp [unreported]
    · obtain ⟨start, rest, settled⟩ := foldl_settleFirst (ofType type conditions) unreported
      rw [settled, foldl_settleFirst_cons, foldl_settle_foldl_settle]

end BareMetal.Condition

namespace BareMetal

variable {machine : MetalMachine} {binding : ServerBinding}

theorem becomeReady_becomeReady (machine : MetalMachine) (binding : ServerBinding) :
    (machine.updateStatus (·.becomeReady binding)).updateStatus (·.becomeReady binding) =
      machine.updateStatus (·.becomeReady binding) := by
  simp [MetalMachine.updateStatus, MetalMachineStatus.becomeReady, MetalMachine.currentStatus,
    Condition.foldl_set_foldl_set]

/-- Reports made again leave any list as it was after the first time.  So a machine that took over
the conditions of its binding takes them over again without anything to write. -/
theorem reports_again_change_nothing :
    (∀ conditions reports : List Condition,
      reports.foldl Condition.set (reports.foldl Condition.set conditions) =
        reports.foldl Condition.set conditions) ∧
      ∀ (machine : MetalMachine) (binding : ServerBinding),
        let copied := machine.updateStatus (·.becomeReady binding)
        commitMachine copied (copied.updateStatus (·.becomeReady binding)) = pure (.ok ()) := by
  refine ⟨Condition.foldl_set_foldl_set, fun machine binding => ?_⟩
  intro copied
  rw [becomeReady_becomeReady]
  exact commitMachine_self copied

end BareMetal
