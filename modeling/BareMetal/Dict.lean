/-!
# Sorted dictionaries

A dictionary is a list of key and value pairs whose keys ascend strictly.  Two dictionaries that
answer every look-up alike are therefore equal, and listing the values walks the keys in order.
-/

namespace BareMetal

/-- A finite map kept as a list of pairs in strictly ascending key order. -/
structure Dict (κ υ : Type) [Ord κ] where
  /-- The pairs, smallest key first. -/
  entries : List (κ × υ)
  /-- Every key lies before all later keys. -/
  ascending : entries.Pairwise fun earlier later => compare earlier.1 later.1 = .lt

namespace Dict

variable {κ υ : Type} [Ord κ]

instance [DecidableEq κ] [DecidableEq υ] : DecidableEq (Dict κ υ) := fun left right =>
  decidable_of_iff (left.entries = right.entries) <| by
    cases left
    cases right
    simp

/-- The dictionary without entries. -/
def empty : Dict κ υ := ⟨[], .nil⟩

instance : Inhabited (Dict κ υ) := ⟨empty⟩

/-- Whether the dictionary has no entry. -/
def isEmpty (dict : Dict κ υ) : Bool := dict.entries.isEmpty

/-- The keys, ascending. -/
def keys (dict : Dict κ υ) : List κ := dict.entries.map (·.1)

/-- The values in the order of their keys. -/
def values (dict : Dict κ υ) : List υ := dict.entries.map (·.2)

/-- The value of the first pair that carries `key`. -/
def lookup (key : κ) : List (κ × υ) → Option υ
  | [] => none
  | (present, value) :: rest =>
      match compare key present with
      | .eq => some value
      | _ => lookup key rest

/-- The value stored under a key. -/
def get? (dict : Dict κ υ) (key : κ) : Option υ := lookup key dict.entries

/-- Whether a value is stored under a key. -/
def contains (dict : Dict κ υ) (key : κ) : Bool := (dict.get? key).isSome

/-- Puts a pair at its place in an ascending list, replacing a pair of the same key. -/
def place (key : κ) (value : υ) : List (κ × υ) → List (κ × υ)
  | [] => [(key, value)]
  | (present, old) :: rest =>
      match compare key present with
      | .lt => (key, value) :: (present, old) :: rest
      | .eq => (key, value) :: rest
      | .gt => (present, old) :: place key value rest

/-- A placed pair is the new one or an old one. -/
theorem eq_or_mem_of_mem_place {key : κ} {value : υ} {pairs : List (κ × υ)} {pair : κ × υ}
    (member : pair ∈ place key value pairs) : pair = (key, value) ∨ pair ∈ pairs := by
  induction pairs with
  | nil => simpa [place] using member
  | cons head rest ih =>
      obtain ⟨present, old⟩ := head
      simp only [place] at member
      split at member <;> simp only [List.mem_cons] at member ⊢ <;> grind

/-- Placing a pair keeps the keys strictly ascending. -/
theorem pairwise_place [Std.TransOrd κ] [Std.LawfulEqOrd κ] (key : κ) (value : υ)
    {pairs : List (κ × υ)}
    (ascending : pairs.Pairwise fun earlier later => compare earlier.1 later.1 = .lt) :
    (place key value pairs).Pairwise fun earlier later => compare earlier.1 later.1 = .lt := by
  induction pairs with
  | nil => simp [place]
  | cons head rest ih =>
      obtain ⟨present, old⟩ := head
      obtain ⟨first, remaining⟩ := List.pairwise_cons.1 ascending
      simp only [place]
      split
      · rename_i before
        refine List.pairwise_cons.2 ⟨?_, ascending⟩
        intro pair member
        rcases List.mem_cons.1 member with rfl | later
        · exact before
        · exact Std.TransCmp.lt_trans before (first pair later)
      · rename_i same
        have key_eq : key = present := Std.LawfulEqCmp.eq_of_compare same
        subst key_eq
        exact List.pairwise_cons.2 ⟨first, remaining⟩
      · rename_i after
        refine List.pairwise_cons.2 ⟨?_, ih remaining⟩
        intro pair member
        rcases eq_or_mem_of_mem_place member with rfl | old_member
        · exact Std.OrientedCmp.lt_of_gt after
        · exact first pair old_member

/-- Stores a value under a key, replacing the value stored there before. -/
def insert [Std.TransOrd κ] [Std.LawfulEqOrd κ] (dict : Dict κ υ) (key : κ) (value : υ) :
    Dict κ υ :=
  ⟨place key value dict.entries, pairwise_place key value dict.ascending⟩

/-- Keeps the entries that pass a test. -/
def filter (dict : Dict κ υ) (keep : κ × υ → Bool) : Dict κ υ :=
  ⟨dict.entries.filter keep, dict.ascending.filter keep⟩

/-- Removes the entry of a key, if there is one. -/
def erase (dict : Dict κ υ) (key : κ) : Dict κ υ :=
  dict.filter fun entry => compare key entry.1 != .eq

/-- Stores the pairs of a list one after the other, so that the last of several wins. -/
def ofList [Std.TransOrd κ] [Std.LawfulEqOrd κ] (pairs : List (κ × υ)) : Dict κ υ :=
  pairs.foldl (fun dict pair => dict.insert pair.1 pair.2) empty

/-! ## Look-ups -/

section LookUps

theorem contains_iff {dict : Dict κ υ} {key : κ} :
    dict.contains key ↔ ∃ value, dict.get? key = some value := by
  simp [contains, Option.isSome_iff_exists]

variable [Std.LawfulEqOrd κ]

/-- In an ascending list a look-up finds exactly the pairs of the list. -/
theorem lookup_eq_some_iff {key : κ} {value : υ} {pairs : List (κ × υ)}
    (ascending : pairs.Pairwise fun earlier later => compare earlier.1 later.1 = .lt) :
    lookup key pairs = some value ↔ (key, value) ∈ pairs := by
  induction pairs with
  | nil => simp [lookup]
  | cons head rest ih =>
      obtain ⟨present, old⟩ := head
      obtain ⟨first, remaining⟩ := List.pairwise_cons.1 ascending
      by_cases same : key = present
      · subst same
        have absent : (key, value) ∉ rest := fun member => by
          simpa using first _ member
        simp [lookup, absent, eq_comm]
      · have apart : compare key present ≠ .eq := fun equal => same (Std.compare_eq_iff_eq.1 equal)
        have skipped : lookup key ((present, old) :: rest) = lookup key rest := by
          simp only [lookup]
        simp [skipped, ih remaining, same]

/-- A dictionary answers with exactly the values of its entries. -/
theorem get?_eq_some_iff {dict : Dict κ υ} {key : κ} {value : υ} :
    dict.get? key = some value ↔ (key, value) ∈ dict.entries :=
  lookup_eq_some_iff dict.ascending

/-- The values are those that look-ups give. -/
theorem mem_values {dict : Dict κ υ} {value : υ} :
    value ∈ dict.values ↔ ∃ key, dict.get? key = some value := by
  simp [values, get?_eq_some_iff]

/-- The keys are those with a value. -/
theorem mem_keys {dict : Dict κ υ} {key : κ} :
    key ∈ dict.keys ↔ ∃ value, dict.get? key = some value := by
  simp [keys, get?_eq_some_iff]

/-- Values that go by the keys that they lie under go by all keys. -/
theorem map_values_eq_keys {dict : Dict κ υ} {name : υ → κ}
    (named : ∀ key value, dict.get? key = some value → name value = key) :
    dict.values.map name = dict.keys := by
  rw [values, keys, List.map_map]
  refine List.map_congr_left fun entry member => ?_
  exact named entry.1 entry.2 (get?_eq_some_iff.2 member)

theorem lookup_place (key other : κ) (value : υ) (pairs : List (κ × υ)) :
    lookup other (place key value pairs) =
      if compare other key = .eq then some value else lookup other pairs := by
  induction pairs with
  | nil => cases order : compare other key <;> simp [place, lookup, order]
  | cons head rest ih =>
      obtain ⟨present, old⟩ := head
      cases order : compare key present with
      | lt => cases other_order : compare other key <;> simp [place, lookup, order, other_order]
      | eq =>
          have key_eq : key = present := Std.compare_eq_iff_eq.1 order
          subst key_eq
          cases other_order : compare other key <;> simp [place, lookup, other_order]
      | gt =>
          simp only [place, order, lookup, ih]
          cases other_order : compare other present with
          | eq =>
              have other_eq : other = present := Std.compare_eq_iff_eq.1 other_order
              subst other_eq
              have apart : compare other key ≠ .eq := fun equal => by
                rw [Std.compare_eq_iff_eq.1 equal] at order
                simp at order
              simp [apart]
          | lt => rfl
          | gt => rfl

@[simp] theorem get?_erase_self (dict : Dict κ υ) (key : κ) :
    (dict.erase key).get? key = none := by
  refine Option.eq_none_iff_forall_ne_some.2 fun value found => ?_
  simp [get?_eq_some_iff, erase, filter] at found

theorem get?_erase_of_ne {key other : κ} (different : other ≠ key) (dict : Dict κ υ) :
    (dict.erase key).get? other = dict.get? other := by
  refine Option.ext fun value => ?_
  have apart : compare key other ≠ .eq := fun equal =>
    different (Std.compare_eq_iff_eq.1 equal).symm
  simp [get?_eq_some_iff, erase, filter, apart]

/-- What is found after an erasure was there before, under another key. -/
theorem get?_erase_eq_some {key other : κ} {dict : Dict κ υ} {value : υ} :
    (dict.erase key).get? other = some value ↔ other ≠ key ∧ dict.get? other = some value := by
  by_cases same : other = key
  · subst same
    simp
  · simp [get?_erase_of_ne same, same]

variable [Std.TransOrd κ]

@[simp] theorem get?_insert_self (dict : Dict κ υ) (key : κ) (value : υ) :
    (dict.insert key value).get? key = some value := by
  simp [get?, insert, lookup_place]

theorem get?_insert_of_ne {key other : κ} (different : other ≠ key) (dict : Dict κ υ)
    (value : υ) : (dict.insert key value).get? other = dict.get? other := by
  simp [get?, insert, lookup_place, different]

/-- What is found after an insertion is the new value, or was there before under another key. -/
theorem get?_insert_eq_some {key other : κ} {dict : Dict κ υ} {value found : υ} :
    (dict.insert key value).get? other = some found ↔
      other = key ∧ value = found ∨ other ≠ key ∧ dict.get? other = some found := by
  by_cases same : other = key
  · subst same
    simp
  · simp [get?_insert_of_ne same, same]

/-- Dictionaries that answer every look-up alike are equal. -/
theorem ext_get? {left right : Dict κ υ} (same : ∀ key, left.get? key = right.get? key) :
    left = right := by
  have never : ∀ pair other : κ × υ, compare pair.1 other.1 = .lt →
      ¬compare other.1 pair.1 = .lt := fun pair other before after => by
    simpa using Std.TransCmp.lt_trans before after
  have once : ∀ dict : Dict κ υ, dict.entries.Nodup := fun dict => by
    refine dict.ascending.imp ?_
    rintro pair other before rfl
    exact never pair pair before before
  have perm : left.entries.Perm right.entries :=
    (List.perm_ext_iff_of_nodup (once left) (once right)).2 fun pair => by
      rw [← get?_eq_some_iff, ← get?_eq_some_iff, same]
  have entries_eq : left.entries = right.entries :=
    perm.eq_of_pairwise (fun _ _ _ _ before after => absurd after (never _ _ before))
      left.ascending right.ascending
  cases left
  cases right
  simpa using entries_eq

end LookUps

end Dict

end BareMetal
