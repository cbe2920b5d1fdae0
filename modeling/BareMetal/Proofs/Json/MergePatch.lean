import BareMetal.Json.MergePatch
import BareMetal.Proofs.Json.Fields

/-!
# What a merge patch makes of the members of an object

A change of a member decides what becomes of it, together with the value that was there first.
Members that a patch does not name stay as they are.
-/

namespace BareMetal.Json

variable {members changes : List (String × Json)} {name other : String} {target change : Json}

/-- What a change makes of the value of a member, which is gone if the change is `null`. -/
def changed? (target : Json) : (change : Json) → Option Json
  | null => none
  | change => some (mergePatch target change)

@[simp] theorem changed?_null (target : Json) : changed? target null = none := rfl

@[simp] theorem changed?_bool (target : Json) (value : Bool) :
    changed? target (bool value) = some (bool value) := by
  simp [changed?, mergePatch]

@[simp] theorem changed?_str (target : Json) (text : String) :
    changed? target (str text) = some (str text) := by
  simp [changed?, mergePatch]

@[simp] theorem changed?_arr (target : Json) (items : List Json) :
    changed? target (arr items) = some (arr items) := by
  simp [changed?, mergePatch]

@[simp] theorem changed?_obj (target : Json) (changes : List (String × Json)) :
    changed? target (obj changes) = some (obj (patchMembers target.members changes)) := by
  simp [changed?, mergePatch]

theorem values_dropMember (name : String) (members : List (String × Json)) (other : String) :
    Fields.values (dropMember name members) other =
      if other = name then [] else Fields.values members other := by
  rw [dropMember, Fields.values_filter (· != name)]
  by_cases same : other = name <;> simp [same]

/-- One change drops all members of its name and puts at most one in their place. -/
theorem patchMembers_cons (members : List (String × Json)) (name : String) (change : Json)
    (rest : List (String × Json)) :
    patchMembers members ((name, change) :: rest) =
      patchMembers (dropMember name members ++
        (changed? ((members.lookup name).getD null) change).toList.map fun value => (name, value))
        rest := by
  cases change <;> simp [patchMembers, changed?, setMember]

/-- The values of a name after one change. -/
theorem values_change (members : List (String × Json)) (name : String) (value : Option Json)
    (other : String) :
    Fields.values (dropMember name members ++ value.toList.map fun value => (name, value)) other =
      if other = name then value.toList else Fields.values members other := by
  rw [Fields.values_append, values_dropMember]
  by_cases same : other = name
  · subst same
    cases value <;> simp
  · have apart : ¬name = other := fun equal => same equal.symm
    cases value <;> simp [same, apart]

/-- The values of a name after a patch that names each member at most once: those from before if the
patch does not name it, and otherwise what the change made of the first one. -/
theorem values_patchMembers (once : (changes.map Prod.fst).Nodup)
    (members : List (String × Json)) (name : String) :
    Fields.values (patchMembers members changes) name =
      match changes.lookup name with
      | none => Fields.values members name
      | some change => (changed? ((members.lookup name).getD null) change).toList := by
  induction changes generalizing members with
  | nil => simp [patchMembers]
  | cons entry rest ih =>
      obtain ⟨first, change⟩ := entry
      obtain ⟨unnamed, once⟩ := List.nodup_cons.1 once
      rw [patchMembers_cons, ih once]
      by_cases same : name = first
      · subst same
        have absent : rest.lookup name = none := by
          refine List.lookup_eq_none_iff.2 fun entry member => ?_
          have other : name ≠ entry.1 := fun equal =>
            unnamed (List.mem_map.2 ⟨entry, member, equal.symm⟩)
          simpa using other
        simp only [absent, values_change, if_true, List.lookup_cons_self]
      · have apart : (name == first) = false := by simpa using same
        simp only [Fields.lookup_eq_head?, values_change, same, if_false, List.lookup_cons, apart]

/-- A change decides what becomes of the members of its name. -/
theorem values_of_change (once : (changes.map Prod.fst).Nodup)
    (given : Fields.values changes name = [change]) (members : List (String × Json)) :
    Fields.values (patchMembers members changes) name =
      (changed? ((members.lookup name).getD null) change).toList := by
  have found : changes.lookup name = some change := by rw [Fields.lookup_eq_head?, given]; rfl
  rw [values_patchMembers once, found]

/-- Members that a patch does not name stay. -/
theorem values_of_unnamed (once : (changes.map Prod.fst).Nodup)
    (unnamed : Fields.values changes name = []) (members : List (String × Json)) :
    Fields.values (patchMembers members changes) name = Fields.values members name := by
  have absent : changes.lookup name = none := by rw [Fields.lookup_eq_head?, unnamed]; rfl
  rw [values_patchMembers once, absent]

/-- No field is given twice after a patch if those that it does not name were given once. -/
theorem givenOnce_patchMembers {names : List String} (once : (changes.map Prod.fst).Nodup)
    (given : ∀ name ∈ names, Fields.values changes name = [] →
      (Fields.values members name).length ≤ 1) :
    GivenOnce names (patchMembers members changes) := by
  intro name listed
  cases named : Fields.values changes name with
  | nil =>
      rw [values_of_unnamed once named]
      exact given name listed named
  | cons change rest =>
      have found : changes.lookup name = some change := by rw [Fields.lookup_eq_head?, named]; rfl
      rw [values_patchMembers once, found]
      exact Option.length_toList_le

theorem GivenOnce.patchMembers {names : List String} (given : GivenOnce names members)
    (once : (changes.map Prod.fst).Nodup) : GivenOnce names (patchMembers members changes) :=
  givenOnce_patchMembers once fun name listed _ => given name listed

/-- Fields that a patch names are given at most once after it. -/
theorem givenOnce_of_named {names : List String} (once : (changes.map Prod.fst).Nodup)
    (named : names ⊆ changes.map Prod.fst) :
    GivenOnce names (Json.patchMembers members changes) := by
  refine givenOnce_patchMembers once fun name listed unnamed => ?_
  have counted := List.count_pos_iff.2 (named listed)
  simp [← Fields.length_values, unnamed] at counted

/-! ## Fields of a patched record -/

section

open Fields

variable {α : Type} {read : Json → Option α}

/-- A record that is sent, or `null` in its place, becomes what the record makes of the record that
is there. -/
theorem optional_merged (once : (changes.map Prod.fst).Nodup) (write : α → Json) {new : Option α}
    {upon : α → α} (given : values changes name = [ofOption write new]) (refuses : read null = none)
    (becomes : ∀ value, ∃ patched,
      changed? ((members.lookup name).getD null) (write value) = some patched ∧
        read patched = some (upon value)) :
    Fields.optional (patchMembers members changes) name read = some (new.map upon) := by
  have patched := values_of_change once given members
  cases new with
  | none => exact optional_of_missing patched
  | some value =>
      obtain ⟨json, changed, reads⟩ := becomes value
      rw [optional_of_values json (by rw [patched]; simp [ofOption, changed]),
        orNull_of_read refuses reads]
      rfl

/-- An optional text that is sent, or `null` in its place, is the new one. -/
theorem optional_str_replaced (once : (changes.map Prod.fst).Nodup) (new : Option String)
    (given : values changes name = [ofOption str new]) :
    Fields.optional (patchMembers members changes) name str? = some new := by
  rw [optional_merged once _ given rfl fun text => ⟨str text, changed?_str _ text, rfl⟩]
  exact congrArg some Option.map_id'

/-- A truth value that is sent is the new one. -/
theorem defaulted_bool_replaced (once : (changes.map Prod.fst).Nodup) (new : Bool) {default : Bool}
    (given : values changes name = [bool new]) :
    defaulted (patchMembers members changes) name default bool? = some new := by
  rw [defaulted_of_values (bool new) (by rw [values_of_change once given, changed?_bool]; rfl)]
  rfl

/-- A list that is sent is the new one. -/
theorem defaulted_list_replaced (once : (changes.map Prod.fst).Nodup) {write : α → Json}
    {new default : List α} (given : values changes name = [arr (new.map write)])
    (back : ∀ item ∈ new, read (write item) = some item) :
    defaulted (patchMembers members changes) name default (list? read) = some new := by
  rw [defaulted_of_values (arr (new.map write))
    (by rw [values_of_change once given, changed?_arr]; rfl)]
  exact list?_map back

theorem defaulted_strings_replaced (once : (changes.map Prod.fst).Nodup)
    {new default : List String} (given : values changes name = [strings new]) :
    defaulted (patchMembers members changes) name default (list? str?) = some new :=
  defaulted_list_replaced once given fun _ _ => rfl

end

/-- A patch with one change leaves the members of other names as they are. -/
theorem dropMember_patchMembers_singleton (members : List (String × Json)) (name : String)
    (change : Json) :
    dropMember name (patchMembers members [(name, change)]) = dropMember name members := by
  rw [patchMembers_cons, patchMembers, dropMember, List.filter_append]
  cases changed? ((members.lookup name).getD null) change <;> simp [dropMember]

end BareMetal.Json
