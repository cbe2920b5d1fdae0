import BareMetal.Object.Condition
import Mathlib.Data.List.Induction

/-!
# Reporting conditions

Reports change a list of conditions type by type: of each type the first entry settles on the
reports of that type one after the other, and every other entry stays.  A list that is in order is
determined by its entries of each type.  So the same reports made twice leave what they left the
first time.  If only the last report is dated differently, they do so unless the report before it
of the same type has another status: then the two take turns, and the date of the last one shows.
-/

namespace BareMetal.Condition

variable {conditions others reports : List Condition} {old new report start : Condition}
  {type : String}

/-! ## Entries of one type -/

/-- The conditions of a type. -/
def ofType (type : String) (conditions : List Condition) : List Condition :=
  conditions.filter fun condition => condition.type == type

/-- Lets the first entry settle on a report; without entries the report is the first. -/
def settleFirst (entries : List Condition) (report : Condition) : List Condition :=
  match entries with
  | [] => [report]
  | old :: rest => settle old report :: rest

@[simp] theorem ofType_nil (type : String) : ofType type [] = [] := rfl

theorem ofType_cons (type : String) (condition : Condition) (conditions : List Condition) :
    ofType type (condition :: conditions) =
      if condition.type = type then condition :: ofType type conditions
      else ofType type conditions := by
  simp [ofType, List.filter_cons]

@[simp] theorem ofType_append (type : String) (conditions others : List Condition) :
    ofType type (conditions ++ others) = ofType type conditions ++ ofType type others :=
  List.filter_append ..

@[simp] theorem type_settle (old new : Condition) : (settle old new).type = new.type := by
  unfold settle
  split <;> rfl

@[simp] theorem status_settle (old new : Condition) : (settle old new).status = new.status := by
  unfold settle
  split <;> rfl

theorem settle_of_ne (differ : old.status ≠ new.status) : settle old new = new := by
  simp [settle, differ]

theorem settle_of_eq (same : old.status = new.status) :
    settle old new = { new with lastTransitionTime := old.lastTransitionTime } := by
  simp [settle, same]

@[simp] theorem settle_self (condition : Condition) : settle condition condition = condition := by
  simp [settle]

theorem settle_of_sameReport (same : old.sameReport new = true) (same_type : old.type = new.type) :
    settle old new = old := by
  cases old
  cases new
  simp only [sameReport, Bool.and_eq_true, beq_iff_eq] at same same_type
  simp [settle, same, same_type]

/-- Only the status and the time of a condition matter for what comes after it. -/
theorem settle_congr (status : old.status = start.status)
    (time : old.lastTransitionTime = start.lastTransitionTime) :
    settle old report = settle start report := by
  simp [settle, status, time]

theorem ofType_amend (type : String) (new : Condition) (conditions : List Condition) :
    ofType type (amend new conditions) =
      if new.type = type then settleFirst (ofType type conditions) new
      else ofType type conditions := by
  induction conditions with
  | nil => simp [amend, ofType_cons, settleFirst]
  | cons old rest ih =>
      by_cases same : old.type = new.type
      · by_cases wanted : new.type = type
        · simp [amend, same, ofType_cons, wanted, settleFirst]
        · simp [amend, same, ofType_cons, wanted]
      · by_cases wanted : new.type = type
        · have other : old.type ≠ type := fun wanted_too => same (wanted_too.trans wanted.symm)
          simp [amend, same, ofType_cons, other, ih]
        · simp [amend, same, ofType_cons, wanted, ih]

/-! ## Order -/

/-- A list in which every condition may stand before all that follow. -/
def Ordered (conditions : List Condition) : Prop :=
  conditions.Pairwise fun earlier later => earlier.inOrder later = true

theorem inOrder_of_type_eq (same : old.type = new.type) : old.inOrder new = true := by
  simp [inOrder, same]

theorem type_eq_of_inOrder (forth : old.inOrder new = true) (back : new.inOrder old = true) :
    old.type = new.type := by
  unfold inOrder at forth back
  by_cases first : old.type = readyType <;> by_cases second : new.type = readyType
  · rw [first, second]
  · simp [first, second] at back
  · simp [first, second] at forth
  · simp only [first, second, if_false, decide_eq_true_eq] at forth back
    exact Std.le_antisymm forth back

theorem inOrder_trans (first second third : Condition) (front : first.inOrder second = true)
    (back : second.inOrder third = true) : first.inOrder third = true := by
  unfold inOrder at front back ⊢
  by_cases ready : first.type = readyType
  · simp [ready]
  · by_cases ready_second : second.type = readyType
    · simp [ready, ready_second] at front
    · by_cases ready_third : third.type = readyType
      · simp [ready_second, ready_third] at back
      · simp only [ready, ready_second, ready_third, if_false, decide_eq_true_eq] at front back ⊢
        exact Std.le_trans front back

theorem inOrder_total (first second : Condition) :
    (first.inOrder second || second.inOrder first) = true := by
  unfold inOrder
  by_cases ready : first.type = readyType
  · simp [ready]
  · by_cases ready_second : second.type = readyType
    · simp [ready_second]
    · simpa [ready, ready_second] using Std.le_total

theorem ordered_mergeSort (conditions : List Condition) :
    Ordered (conditions.mergeSort inOrder) :=
  List.pairwise_mergeSort inOrder_trans inOrder_total conditions

/-- Sorting leaves the conditions of one type in the order in which they were. -/
@[simp] theorem ofType_mergeSort (type : String) (conditions : List Condition) :
    ofType type (conditions.mergeSort inOrder) = ofType type conditions := by
  have alike : (ofType type conditions).Pairwise fun earlier later =>
      earlier.inOrder later = true := by
    refine List.pairwise_of_forall_mem_list fun earlier member later member_later => ?_
    apply inOrder_of_type_eq
    simp only [ofType, List.mem_filter, beq_iff_eq] at member member_later
    rw [member.2, member_later.2]
  have kept : (ofType type conditions).Sublist (conditions.mergeSort inOrder) :=
    List.sublist_mergeSort inOrder_trans inOrder_total alike List.filter_sublist
  have within : (ofType type conditions).Sublist
      (ofType type (conditions.mergeSort inOrder)) := by
    simpa [ofType] using kept.filter fun condition => condition.type == type
  have same_length : (ofType type conditions).length =
      (ofType type (conditions.mergeSort inOrder)).length :=
    ((List.mergeSort_perm conditions inOrder).filter _).length_eq.symm
  exact (within.eq_of_length same_length).symm

/-- The first of a list in order has a type that no other list with the same entries of each type
has behind another one. -/
theorem type_eq_of_ordered (ordered : Ordered (old :: conditions))
    (ordered_others : Ordered (new :: others))
    (same : ∀ type, ofType type (old :: conditions) = ofType type (new :: others)) :
    old.type = new.type := by
  have least : ∀ {first : Condition} {rest : List Condition}, Ordered (first :: rest) →
      ∀ condition : Condition, ofType condition.type (first :: rest) ≠ [] →
        first.inOrder condition = true := by
    intro first rest ordered condition some_there
    obtain ⟨other, member⟩ := List.exists_mem_of_ne_nil _ some_there
    simp only [ofType, List.mem_filter, beq_iff_eq, List.mem_cons] at member
    obtain ⟨rfl | member, same_type⟩ := member
    · exact inOrder_of_type_eq same_type
    · have before := List.rel_of_pairwise_cons ordered member
      exact inOrder_trans _ _ _ before (inOrder_of_type_eq same_type)
  apply type_eq_of_inOrder
  · apply least ordered
    rw [same, ofType_cons, if_pos rfl]
    simp
  · apply least ordered_others
    rw [← same, ofType_cons, if_pos rfl]
    simp

/-- A list in order is determined by its entries of each type. -/
theorem eq_of_ordered (ordered : Ordered conditions) (ordered_others : Ordered others)
    (same : ∀ type, ofType type conditions = ofType type others) : conditions = others := by
  induction conditions generalizing others with
  | nil =>
      cases others with
      | nil => rfl
      | cons new others => simpa [ofType_cons] using same new.type
  | cons old conditions ih =>
      cases others with
      | nil => simpa [ofType_cons] using same old.type
      | cons new others =>
          have same_type := type_eq_of_ordered ordered ordered_others same
          have same_first := same new.type
          rw [ofType_cons, ofType_cons, if_pos same_type, if_pos rfl] at same_first
          obtain ⟨rfl, _⟩ := List.cons.inj same_first
          congr 1
          apply ih ordered.of_cons ordered_others.of_cons
          intro type
          have same_rest := same type
          rw [ofType_cons, ofType_cons] at same_rest
          split at same_rest
          · exact List.tail_eq_of_cons_eq same_rest
          · exact same_rest

/-! ## Reports -/

/-- The list says the same already. -/
def Reports (conditions : List Condition) (report : Condition) : Prop :=
  (find? conditions report.type).any (·.sameReport report) = true

theorem find?_eq_head? (conditions : List Condition) (type : String) :
    find? conditions type = (ofType type conditions).head? :=
  List.head?_filter.symm

theorem set_of_reports (said : Reports conditions report) :
    set conditions report = conditions := by
  unfold set
  exact if_pos said

theorem set_of_not_reports (unsaid : ¬Reports conditions report) :
    set conditions report = (amend report conditions).mergeSort inOrder := by
  unfold set
  exact if_neg unsaid

theorem ordered_set (ordered : Ordered conditions) (report : Condition) :
    Ordered (set conditions report) := by
  by_cases said : Reports conditions report
  · rwa [set_of_reports said]
  · rw [set_of_not_reports said]
    exact ordered_mergeSort _

theorem ofType_set (type : String) (conditions : List Condition) (report : Condition) :
    ofType type (set conditions report) =
      if report.type = type then settleFirst (ofType type conditions) report
      else ofType type conditions := by
  by_cases said : Reports conditions report
  · rw [set_of_reports said]
    split
    · rename_i wanted
      subst wanted
      unfold Reports at said
      rw [find?_eq_head?] at said
      cases entries : ofType report.type conditions with
      | nil => simp [entries] at said
      | cons old rest =>
          have member : old ∈ ofType report.type conditions := by simp [entries]
          simp only [ofType, List.mem_filter, beq_iff_eq] at member
          rw [entries] at said
          rw [settleFirst, settle_of_sameReport said member.2]
    · rfl
  · rw [set_of_not_reports said, ofType_mergeSort, ofType_amend]

/-- The condition of a type has the status that was reported last. -/
theorem status_find?_set (conditions : List Condition) (report : Condition) :
    (find? (set conditions report) report.type).map Condition.status = some report.status := by
  rw [find?_eq_head?, ofType_set, if_pos rfl]
  cases ofType report.type conditions with
  | nil => rfl
  | cons old rest => simp [settleFirst]

theorem ofType_foldl_set (type : String) (conditions reports : List Condition) :
    ofType type (reports.foldl set conditions) =
      (ofType type reports).foldl settleFirst (ofType type conditions) := by
  induction reports generalizing conditions with
  | nil => rfl
  | cons report rest ih =>
      rw [List.foldl_cons, ih, ofType_set, ofType_cons]
      split <;> rfl

theorem ordered_foldl_set (ordered : Ordered conditions) (reports : List Condition) :
    Ordered (reports.foldl set conditions) := by
  induction reports generalizing conditions with
  | nil => exact ordered
  | cons report rest ih => exact ih (ordered_set ordered report)

/-- Reports leave a list in order unless it said the same already. -/
theorem foldl_set_cases (conditions reports : List Condition) :
    (∀ report ∈ reports, Reports conditions report) ∨ Ordered (reports.foldl set conditions) := by
  induction reports with
  | nil => simp
  | cons report rest ih =>
      by_cases said : Reports conditions report
      · rw [List.foldl_cons, set_of_reports said]
        exact ih.imp_left fun rest_said => by simpa [said] using rest_said
      · right
        rw [List.foldl_cons, set_of_not_reports said]
        exact ordered_foldl_set (ordered_mergeSort _) rest

theorem foldl_set_of_reports (said : ∀ report ∈ reports, Reports conditions report) :
    reports.foldl set conditions = conditions := by
  induction reports with
  | nil => rfl
  | cons report rest ih =>
      rw [List.forall_mem_cons] at said
      rw [List.foldl_cons, set_of_reports said.1, ih said.2]

/-! ## The same reports again -/

theorem foldl_settleFirst_cons (old : Condition) (rest reports : List Condition) :
    reports.foldl settleFirst (old :: rest) = reports.foldl settle old :: rest := by
  induction reports generalizing old with
  | nil => rfl
  | cons report reports ih => exact ih (settle old report)

/-- With some report the first entry settles on the reports from somewhere. -/
theorem foldl_settleFirst (entries : List Condition) (some_made : reports ≠ []) :
    ∃ start rest, reports.foldl settleFirst entries = reports.foldl settle start :: rest := by
  cases entries with
  | cons old rest => exact ⟨old, rest, foldl_settleFirst_cons old rest reports⟩
  | nil =>
      cases reports with
      | nil => contradiction
      | cons report reports =>
          refine ⟨report, [], ?_⟩
          rw [List.foldl_cons, List.foldl_cons, settle_self]
          exact foldl_settleFirst_cons report [] reports

theorem foldl_settle_congr (status : old.status = start.status)
    (time : old.lastTransitionTime = start.lastTransitionTime) (some_made : reports ≠ []) :
    reports.foldl settle old = reports.foldl settle start := by
  cases reports with
  | nil => contradiction
  | cons report reports => rw [List.foldl_cons, List.foldl_cons, settle_congr status time]

/-- A report of the status that is there changes nothing for the reports after it. -/
theorem foldl_settle_settle (same : old.status = report.status) (some_made : reports ≠ []) :
    reports.foldl settle (settle old report) = reports.foldl settle old := by
  apply foldl_settle_congr
  · rw [status_settle, same]
  · rw [settle_of_eq same]
  · exact some_made

/-- What comes after some reports has the status of the last. -/
theorem status_foldl_settle (start : Condition) {last : Condition}
    (found : reports.getLast? = some last) : (reports.foldl settle start).status = last.status := by
  obtain ⟨front, rfl⟩ := List.getLast?_eq_some_iff.1 found
  simp

/-- Settling on the same reports again changes nothing. -/
theorem foldl_settle_foldl_settle (start : Condition) (reports : List Condition) :
    reports.foldl settle (reports.foldl settle start) = reports.foldl settle start := by
  induction reports using List.reverseRecOn with
  | nil => rfl
  | append_singleton front report ih =>
      simp only [List.foldl_append, List.foldl_cons, List.foldl_nil]
      cases found : front.getLast? with
      | none =>
          rw [List.getLast?_eq_none_iff.1 found]
          by_cases same : start.status = report.status <;> simp [settle, same]
      | some before =>
          have some_made : front ≠ [] := by
            rintro rfl
            simp at found
          by_cases same : (front.foldl settle start).status = report.status
          · -- The report keeps status and time of what was there, so the reports in front of it
            -- start from the same again.
            rw [foldl_settle_settle same some_made, ih]
          · have still : (front.foldl settle
                (settle (front.foldl settle start) report)).status ≠ report.status := by
              rwa [status_foldl_settle _ found, ← status_foldl_settle start found]
            rw [settle_of_ne same, settle_of_ne]
            rwa [settle_of_ne same] at still

/-! ## A last report of another time -/

/-- A condition that came to be what it is at an instant. -/
def since (condition : Condition) (time : Timestamp) : Condition :=
  { condition with lastTransitionTime := some time }

/-- Among some reports the last one of the type of another has another status. -/
def Contradicts (reports : List Condition) (report : Condition) : Prop :=
  ∃ last, (ofType report.type reports).getLast? = some last ∧ last.status ≠ report.status

/-- Settled twice on some reports and a last one, a condition is the same after the second time
unless the last report has a new time and contradicts the others. -/
theorem settle_again_eq_iff (start : Condition) (reports : List Condition) (report : Condition)
    (first second : Timestamp) :
    settle (reports.foldl settle (settle (reports.foldl settle start) (report.since first)))
      (report.since second) = settle (reports.foldl settle start) (report.since first) ↔
      first = second ∨ ¬∃ last, reports.getLast? = some last ∧ last.status ≠ report.status := by
  cases found : reports.getLast? with
  | none =>
      rw [List.getLast?_eq_none_iff.1 found]
      by_cases same : start.status = report.status <;> simp [settle, since, same]
  | some last =>
      have some_made : reports ≠ [] := by
        rintro rfl
        simp at found
      have status := status_foldl_settle start found
      by_cases same : last.status = report.status
      · have same_now : (reports.foldl settle start).status = (report.since first).status :=
          status.trans same
        rw [foldl_settle_settle same_now some_made, foldl_settle_foldl_settle]
        simp [settle, since, status, same]
      · have differs : (reports.foldl settle start).status ≠ (report.since first).status := by
          rwa [status]
        have differs_again : (reports.foldl settle
            (settle (reports.foldl settle start) (report.since first))).status ≠
              (report.since second).status := by
          rwa [status_foldl_settle _ found]
        rw [settle_of_ne differs_again, settle_of_ne differs]
        constructor
        · intro equal
          left
          exact (Option.some.inj (congrArg lastTransitionTime equal)).symm
        · rintro (rfl | agrees)
          · rfl
          · exact absurd ⟨last, rfl, same⟩ agrees

theorem ofType_since (type : String) (report : Condition) (time : Timestamp) :
    ofType type [report.since time] = if report.type = type then [report.since time] else [] := by
  simp [ofType_cons, since]

section

variable (conditions reports : List Condition) (report : Condition) (first second : Timestamp)

/-- Conditions of other types than that of the last report do not see its time. -/
theorem ofType_foldl_set_again_of_ne (other : report.type ≠ type) :
    ofType type ((reports ++ [report.since second]).foldl set
        ((reports ++ [report.since first]).foldl set conditions)) =
      ofType type ((reports ++ [report.since first]).foldl set conditions) := by
  simp only [ofType_foldl_set, ofType_append, ofType_since, if_neg other, List.append_nil]
  by_cases some_made : ofType type reports = []
  · simp [some_made]
  · obtain ⟨start, rest, settled⟩ := foldl_settleFirst (ofType type conditions) some_made
    rw [settled, foldl_settleFirst_cons, foldl_settle_foldl_settle]

theorem ofType_foldl_set_again_eq_iff :
    ofType report.type ((reports ++ [report.since second]).foldl set
        ((reports ++ [report.since first]).foldl set conditions)) =
      ofType report.type ((reports ++ [report.since first]).foldl set conditions) ↔
        first = second ∨ ¬Contradicts reports report := by
  simp only [ofType_foldl_set, ofType_append, ofType_since, if_true]
  have some_made : ofType report.type reports ++ [report.since first] ≠ [] := by simp
  obtain ⟨start, rest, settled⟩ := foldl_settleFirst (ofType report.type conditions) some_made
  rw [settled, foldl_settleFirst_cons]
  simp only [List.foldl_append, List.foldl_cons, List.foldl_nil, List.cons.injEq, and_true]
  exact settle_again_eq_iff start (ofType report.type reports) report first second

/-- The same reports made again, with a last one of another time, change nothing unless the last
one contradicts the others. -/
theorem foldl_set_again_eq_iff :
    (reports ++ [report.since second]).foldl set
        ((reports ++ [report.since first]).foldl set conditions) =
      (reports ++ [report.since first]).foldl set conditions ↔
        first = second ∨ ¬Contradicts reports report := by
  constructor
  · intro same
    rw [← ofType_foldl_set_again_eq_iff conditions, same]
  · intro agrees
    rcases foldl_set_cases conditions (reports ++ [report.since first]) with said | ordered
    · have said_again : ∀ other ∈ reports ++ [report.since second],
          Reports conditions other := by
        simp only [List.forall_mem_append, List.forall_mem_singleton] at said ⊢
        exact said
      rw [foldl_set_of_reports said, foldl_set_of_reports said_again]
    · apply eq_of_ordered (ordered_foldl_set ordered _) ordered
      intro type
      by_cases same_type : report.type = type
      · subst same_type
        exact (ofType_foldl_set_again_eq_iff conditions reports report first second).2 agrees
      · exact ofType_foldl_set_again_of_ne conditions reports report first second same_type

end

end BareMetal.Condition
