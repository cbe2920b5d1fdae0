import BareMetal.Proofs.Json.MergePatch

/-!
# Dictionaries under merge patches

A dictionary is read from an object, where the last of several members of a name counts.  A merge
patch with another dictionary lays the one over the other: what it does not name stays.
-/

namespace BareMetal

namespace Dict

section

variable {κ υ : Type} [Ord κ] [Std.LawfulEqOrd κ] [Std.TransOrd κ]

/-- The pairs of a list put into a dictionary one after the other. -/
def insertAll (dict : Dict κ υ) (pairs : List (κ × υ)) : Dict κ υ :=
  pairs.foldl (fun dict pair => dict.insert pair.1 pair.2) dict

/-- A dictionary laid over another. -/
def upon (new old : Dict κ υ) : Dict κ υ := old.insertAll new.entries

theorem insertAll_append (dict : Dict κ υ) (front back : List (κ × υ)) :
    dict.insertAll (front ++ back) = (dict.insertAll front).insertAll back :=
  List.foldl_append

variable [DecidableEq κ]

theorem get?_insert (dict : Dict κ υ) (key other : κ) (value : υ) :
    (dict.insert key value).get? other = if other = key then some value else dict.get? other := by
  by_cases same : other = key
  · subst same
    simp
  · simp [get?_insert_of_ne same, same]

theorem get?_insertAll {pairs : List (κ × υ)}
    (ascending : pairs.Pairwise fun earlier later => compare earlier.1 later.1 = .lt)
    (dict : Dict κ υ) (key : κ) :
    (dict.insertAll pairs).get? key = (lookup key pairs).or (dict.get? key) := by
  induction pairs generalizing dict with
  | nil => rfl
  | cons pair rest ih =>
      obtain ⟨before, ascending_rest⟩ := List.pairwise_cons.1 ascending
      change ((dict.insert pair.1 pair.2).insertAll rest).get? key = _
      rw [ih ascending_rest, get?_insert]
      by_cases same : key = pair.1
      · subst same
        have absent : lookup pair.1 rest = none := by
          refine Option.eq_none_iff_forall_ne_some.2 fun value found => ?_
          have member := (lookup_eq_some_iff ascending_rest).1 found
          simpa using before _ member
        simp [absent, lookup]
      · have apart : compare key pair.1 ≠ .eq := fun equal => same (Std.compare_eq_iff_eq.1 equal)
        have skipped : lookup key (pair :: rest) = lookup key rest := by
          simp only [lookup]
        rw [if_neg same, skipped]

/-- What is found in two dictionaries, one over the other, is found in the upper or else in the lower
one. -/
theorem get?_upon (new old : Dict κ υ) (key : κ) :
    (new.upon old).get? key = (new.get? key).or (old.get? key) :=
  get?_insertAll new.ascending old key

/-- A dictionary over the empty one is the dictionary. -/
theorem upon_empty (dict : Dict κ υ) : dict.upon empty = dict :=
  ext_get? fun key => by
    rw [get?_upon, show (empty : Dict κ υ).get? key = none from rfl, Option.or_none]

/-- A dictionary over another is the upper one if that has all keys of the lower one. -/
theorem upon_eq_left_iff (new old : Dict κ υ) :
    new.upon old = new ↔ ∀ key, new.get? key = none → old.get? key = none := by
  constructor
  · intro same key absent
    have found := get?_upon new old key
    rwa [same, absent, Option.none_or, eq_comm] at found
  · intro covers
    refine ext_get? fun key => ?_
    rw [get?_upon]
    cases found : new.get? key with
    | some => rfl
    | none => exact covers key found

/-- Pairs of one key make no difference to what is found under another. -/
theorem get?_insertAll_filter {key other : κ} (differs : other ≠ key) {left right : Dict κ υ}
    (same : left.get? other = right.get? other) (pairs : List (κ × υ)) :
    (left.insertAll (pairs.filter fun pair => pair.1 != key)).get? other =
      (right.insertAll pairs).get? other := by
  induction pairs generalizing left right with
  | nil => exact same
  | cons pair rest ih =>
      by_cases dropped : pair.1 = key
      · rw [List.filter_cons_of_neg (by simp [dropped])]
        refine ih ?_
        rw [get?_insert, if_neg (dropped ▸ differs), same]
      · rw [List.filter_cons_of_pos (by simp [dropped])]
        refine ih ?_
        rw [get?_insert, get?_insert, same]

/-- A pair at the end replaces all pairs of its key. -/
theorem ofList_filter_append (pairs : List (κ × υ)) (key : κ) (value : υ) :
    ofList (pairs.filter (fun pair => pair.1 != key) ++ [(key, value)]) =
      (ofList pairs).insert key value := by
  refine ext_get? fun other => ?_
  change ((empty : Dict κ υ).insertAll _).get? other = _
  rw [insertAll_append]
  change ((empty.insertAll _).insert key value).get? other = _
  rw [get?_insert, get?_insert]
  split
  · rfl
  · rename_i differs
    exact get?_insertAll_filter differs rfl pairs

end

end Dict

namespace Json

variable {α : Type} {read : Json → Option α} {members : List (String × Json)} {name : String}

theorem readValues_append (front back : List (String × Json)) :
    readValues read (front ++ back) = (readValues read front).bind fun earlier =>
      (readValues read back).map (earlier ++ ·) := by
  induction front with
  | nil => simp [readValues]
  | cons member rest ih =>
      rw [List.cons_append, readValues, ih, readValues]
      cases read member.2 <;> cases readValues read rest <;> cases readValues read back <;> rfl

/-- What is left of members that can be read can be read. -/
theorem readValues_dropMember {pairs : List (String × α)}
    (reads : readValues read members = some pairs) (name : String) :
    readValues read (dropMember name members) =
      some (pairs.filter fun pair => pair.1 != name) := by
  induction members generalizing pairs with
  | nil =>
      obtain rfl := Option.some.inj reads
      rfl
  | cons member rest ih =>
      obtain ⟨value, read_value, reads⟩ := Option.bind_eq_some_iff.1 reads
      obtain ⟨others, read_others, reads⟩ := Option.bind_eq_some_iff.1 reads
      obtain rfl := Option.some.inj reads
      have rest_left := ih read_others
      unfold dropMember at rest_left ⊢
      by_cases dropped : member.1 = name
      · rw [List.filter_cons_of_neg (by simp [dropped]), List.filter_cons_of_neg (by simp [dropped]),
          rest_left]
      · rw [List.filter_cons_of_pos (by simp [dropped]), List.filter_cons_of_pos (by simp [dropped]),
          readValues, read_value, rest_left]
        rfl

/-- Setting a member of a dictionary puts its value in. -/
theorem dict?_setMember {dict : Dict String α} {json : Json} {value : α}
    (reads : dict? read (obj members) = some dict) (read_value : read json = some value)
    (name : String) :
    dict? read (obj (setMember name json members)) = some (dict.insert name value) := by
  obtain ⟨pairs, read_pairs, rfl⟩ := Option.map_eq_some_iff.1 reads
  have last : readValues read [(name, json)] = some [(name, value)] := by
    simp [readValues, read_value]
  rw [dict?, setMember, readValues_append, readValues_dropMember read_pairs, last]
  exact congrArg some (Dict.ofList_filter_append pairs name value)

/-- A dictionary of texts that is merged into another lies over it. -/
theorem dict?_patchMembers {old : Dict String String}
    (reads : dict? str? (obj members) = some old) (new : Dict String String) :
    dict? str? (obj (patchMembers members (ofDict str new).members)) = some (new.upon old) := by
  obtain ⟨entries, ascending⟩ := new
  change dict? str? (obj (patchMembers members (entries.map fun entry => (entry.1, str entry.2)))) =
    some (old.insertAll entries)
  clear ascending
  induction entries generalizing members old with
  | nil => exact reads
  | cons entry rest ih =>
      rw [List.map_cons, patchMembers_cons, changed?_str]
      exact ih (dict?_setMember reads rfl entry.1)

/-- A dictionary of texts is read as it was written. -/
theorem dict?_ofDict_str (dict : Dict String String) : dict? str? (ofDict str dict) = some dict := by
  have pairs : readValues str? (dict.entries.map fun entry => (entry.1, str entry.2)) =
      some dict.entries := by
    generalize dict.entries = entries
    induction entries with
    | nil => rfl
    | cons entry rest ih => simp [readValues, str?, ih]
  rw [ofDict, dict?, pairs]
  exact congrArg some dict.upon_empty

end Json

end BareMetal
