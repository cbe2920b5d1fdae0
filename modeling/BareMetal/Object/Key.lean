/-!
# Object keys

An object is known by its namespace and its name.  Keys are ordered by namespace first, then by
name, each by code points.
-/

namespace BareMetal

/-- The identity of an object among those of its kind. -/
structure ObjectKey where
  /-- The namespace, empty for objects that belong to the whole cluster. -/
  space : String
  /-- The name. -/
  name : String
  deriving DecidableEq, Ord, Inhabited

namespace ObjectKey

theorem compare_eq (left right : ObjectKey) :
    compare left right =
      (compare left.space right.space).then (compare left.name right.name) := by
  cases left
  cases right
  change (compare _ _).then ((compare _ _).then .eq) = _
  simp

instance : Std.LawfulEqOrd ObjectKey where
  compare_self := by simp [compare_eq]
  eq_of_compare {left right} same := by
    rw [compare_eq, Ordering.then_eq_eq] at same
    cases left
    cases right
    simpa using same

instance : Std.OrientedOrd ObjectKey where
  eq_swap {left right} := by
    rw [compare_eq, compare_eq, Ordering.swap_then, ← Std.OrientedCmp.eq_swap,
      ← Std.OrientedCmp.eq_swap]

instance : Std.TransOrd ObjectKey where
  isLE_trans {first second third} := by
    simp only [compare_eq, Ordering.isLE_then_iff_or]
    rintro (front | ⟨same, front⟩) (back | ⟨same', back⟩)
    · exact .inl (Std.TransCmp.lt_trans front back)
    · exact .inl (Std.TransCmp.lt_of_lt_of_eq front same')
    · exact .inl (Std.TransCmp.lt_of_eq_of_lt same back)
    · exact .inr ⟨Std.TransCmp.eq_trans same same', Std.TransCmp.isLE_trans front back⟩

/-- The form of a key in messages: the name, behind the namespace and a slash if there is one. -/
def display (key : ObjectKey) : String :=
  if key.space.isEmpty then key.name else key.space ++ "/" ++ key.name

end ObjectKey

end BareMetal
