import BareMetal.Pass.Release

/-!
# Names in ascending order

Names that are sorted and taken once each ascend strictly, and a part of them that leaves out no
smaller name is an initial segment.  The keys of a dictionary of texts ascend strictly as well.
-/

namespace BareMetal

/-! ## Names taken once each -/

theorem mem_eraseReps_loop {name last : String} {names seen : List String} :
    name ∈ List.eraseRepsBy.loop (· == ·) last names seen ↔
      name = last ∨ name ∈ names ∨ name ∈ seen := by
  induction names generalizing last seen with
  | nil => simp [List.eraseRepsBy.loop, or_comm]
  | cons next rest ih =>
      unfold List.eraseRepsBy.loop
      split
      · rename_i same
        have same : last = next := by simpa using same
        rw [ih, same, List.mem_cons]
        constructor
        · rintro (first | others)
          · exact .inl first
          · exact .inr (others.imp .inr id)
        · rintro (first | (first | others) | seen)
          · exact .inl first
          · exact .inl first
          · exact .inr (.inl others)
          · exact .inr (.inr seen)
      · rw [ih, List.mem_cons, List.mem_cons]
        constructor
        · rintro (first | others | first | seen)
          · exact .inr (.inl (.inl first))
          · exact .inr (.inl (.inr others))
          · exact .inl first
          · exact .inr (.inr seen)
        · rintro (first | (first | others) | seen)
          · exact .inr (.inr (.inl first))
          · exact .inl first
          · exact .inr (.inl others)
          · exact .inr (.inr (.inr seen))

/-- Names that are sorted and taken once each are the same names. -/
theorem mem_sortedNames {name : String} {names : List String} :
    name ∈ sortedNames names ↔ name ∈ names := by
  have same_members : ∀ sorted : List String, name ∈ sorted.eraseReps ↔ name ∈ sorted := by
    intro sorted
    cases sorted with
    | nil => rfl
    | cons first rest =>
        refine mem_eraseReps_loop.trans ?_
        simp
  rw [sortedNames, same_members, List.mem_mergeSort]

/-- Repetitions dropped from names in order leave strictly ascending names. -/
theorem pairwise_eraseReps_loop {last : String} {names seen : List String}
    (ordered : (last :: names).Pairwise (· ≤ ·))
    (ascending : (last :: seen).Pairwise (· > ·)) :
    (List.eraseRepsBy.loop (· == ·) last names seen).Pairwise (· < ·) := by
  induction names generalizing last seen with
  | nil => exact List.pairwise_reverse.2 ascending
  | cons next rest ih =>
      obtain ⟨last_least, rest_ordered⟩ := List.pairwise_cons.1 ordered
      unfold List.eraseRepsBy.loop
      split
      · have last_rest : (last :: rest).Pairwise (· ≤ ·) :=
          List.pairwise_cons.2 ⟨fun name member => last_least name (List.mem_cons_of_mem _ member),
            (List.pairwise_cons.1 rest_ordered).2⟩
        exact ih last_rest ascending
      · rename_i differs
        have before : last < next :=
          Std.lt_of_le_of_ne (last_least next List.mem_cons_self) (by simpa using differs)
        refine ih rest_ordered (List.pairwise_cons.2 ⟨fun name member => ?_, ascending⟩)
        rcases List.mem_cons.1 member with rfl | member
        · exact before
        · exact Std.lt_trans ((List.pairwise_cons.1 ascending).1 name member) before

theorem pairwise_mergeSort_names (names : List String) :
    (names.mergeSort fun left right => decide (left ≤ right)).Pairwise (· ≤ ·) := by
  have sorted : (names.mergeSort fun left right => decide (left ≤ right)).Pairwise
      fun left right => decide (left ≤ right) = true :=
    List.pairwise_mergeSort (fun _ _ _ => by simpa using Std.le_trans)
      (fun _ _ => by simpa using Std.le_total) names
  simpa using sorted

/-- Names that are sorted and taken once each ascend strictly. -/
theorem pairwise_sortedNames (names : List String) : (sortedNames names).Pairwise (· < ·) := by
  have ordered := pairwise_mergeSort_names names
  unfold sortedNames
  generalize (names.mergeSort fun left right => decide (left ≤ right)) = sorted at ordered
  cases sorted with
  | nil => exact .nil
  | cons first rest => exact pairwise_eraseReps_loop ordered (List.pairwise_singleton _ _)

/-! ## Initial segments -/

/-- A part of ascending names that leaves out no smaller name is an initial segment. -/
theorem eq_take_of_closed {names part : List String} (ascending : names.Pairwise (· < ·))
    (part_ascending : part.Pairwise (· < ·)) (within : ∀ name ∈ part, name ∈ names)
    (closed : ∀ name ∈ part, ∀ earlier ∈ names, earlier < name → earlier ∈ part) :
    part = names.take part.length := by
  induction names generalizing part with
  | nil =>
      have empty : part = [] := List.eq_nil_iff_forall_not_mem.2 fun name member =>
        List.not_mem_nil (within name member)
      rw [empty]
      rfl
  | cons least names ih =>
      obtain ⟨least_before, names_ascending⟩ := List.pairwise_cons.1 ascending
      cases part with
      | nil => rfl
      | cons first part =>
          obtain ⟨first_before, rest_ascending⟩ := List.pairwise_cons.1 part_ascending
          have least_le : ∀ name ∈ least :: names, least ≤ name := by
            intro name member
            rcases List.mem_cons.1 member with rfl | member
            · exact Std.le_refl _
            · exact Std.le_of_lt (least_before name member)
          have same : first = least := by
            refine Classical.byContradiction fun differs => ?_
            have smaller : least < first := Std.lt_of_le_of_ne
              (least_le first (within first List.mem_cons_self)) (Ne.symm differs)
            have member := closed first List.mem_cons_self least List.mem_cons_self smaller
            rcases List.mem_cons.1 member with same | member
            · exact differs same.symm
            · exact Std.lt_irrefl (Std.lt_trans smaller (first_before least member))
          subst same
          have rest := ih names_ascending rest_ascending ?_ ?_
          · rw [List.length_cons, List.take_succ_cons, ← rest]
          · intro name member
            rcases List.mem_cons.1 (within name (List.mem_cons_of_mem _ member)) with rfl | inside
            · exact absurd (first_before _ member) Std.lt_irrefl
            · exact inside
          · intro name member earlier inside smaller
            have found := closed name (List.mem_cons_of_mem _ member) earlier
              (List.mem_cons_of_mem _ inside) smaller
            rcases List.mem_cons.1 found with rfl | found
            · exact absurd (least_before _ inside) Std.lt_irrefl
            · exact found

/-- The keys of a dictionary of texts ascend. -/
theorem Dict.pairwise_keys {υ : Type} (dict : Dict String υ) : dict.keys.Pairwise (· < ·) := by
  refine List.pairwise_map.2 (dict.ascending.imp fun {earlier later} before => ?_)
  exact compareOfLessAndEq_eq_lt.1 before

end BareMetal
