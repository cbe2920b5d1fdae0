import BareMetal.Proofs.Json.Dictionaries
import BareMetal.Proofs.Object.Written

/-!
# Records that are merged into records

A record is written without its unset fields.  So if it is merged into a record of the same type,
the fields that it leaves unset stay as they were.
-/

namespace BareMetal

open Json Fields

/-! ## Members of an object -/

namespace Json

/-- The record that a value has under a name in the form of an object, into which another object is
merged. -/
def record? {α : Type} (read : Json → Option α) (json : Json) (name : String) : Option α :=
  match json.get? name with
  | some (.obj members) => read (.obj members)
  | _ => none

/-- What a value has under a name in the form of an object can be read. -/
def Readable {α : Type} (read : Json → Option α) (json : Json) (name : String) : Prop :=
  ∀ members, json.get? name = some (.obj members) → (read (.obj members)).isSome = true

/-- What a value has under a name, with `null` if it has nothing there. -/
def target (json : Json) (name : String) : Json := (json.get? name).getD .null

/-- To read the record that an object was merged into, it is enough to look at the record that is
there in the form of an object. -/
theorem Readable.cases {α : Type} {read : Json → Option α} {json : Json} {name : String}
    (readable : json.Readable read name) :
    (json.record? read name = none ∧ (json.target name).members = []) ∨
      ∃ members value, json.record? read name = some value ∧
        (json.target name).members = members ∧ read (.obj members) = some value := by
  cases found : json.get? name with
  | none => exact .inl ⟨by simp [record?, found], by simp [target, found, members]⟩
  | some stored =>
      cases stored with
      | obj members =>
          obtain ⟨value, reads⟩ := Option.isSome_iff_exists.1 (readable members found)
          exact .inr ⟨members, value, by simp [record?, found, reads],
            by simp [target, found, Json.members], reads⟩
      | _ => exact .inl ⟨by simp [record?, found], by simp [target, found, members]⟩

/-- What has no members has nothing that cannot be read. -/
theorem readable_of_no_members {α : Type} {read : Json → Option α} {json : Json} {name : String}
    (empty : json.members = []) : json.Readable read name := by
  intro members found
  rw [get?, empty] at found
  cases found

theorem isSome_of_readLast {α : Type} {read : Json → Option α} {json : Json} {rest : List Json}
    {value : Option α} (reads : readLast read (json :: rest) = some value) :
    (read json).isSome = true := by
  obtain ⟨first, found, -⟩ := Option.bind_eq_some_iff.1 reads
  exact Option.isSome_of_mem found

theorem readable_of_optional {α : Type} {read : Json → Option α} {json : Json} {name : String}
    {value : Option α} (reads : optional json.members name read = some value) :
    json.Readable read name := by
  intro members found
  rw [get?, lookup_eq_head?, List.head?_eq_some_iff] at found
  obtain ⟨rest, found⟩ := found
  rw [Fields.optional, found] at reads
  obtain ⟨last, reads, -⟩ := Option.map_eq_some_iff.1 reads
  simpa [orNull] using isSome_of_readLast reads

end Json

section

variable {members changes : List (String × Json)} {name : String}

/-- An optional text that is left out of a patch stays. -/
theorem optional_str_merged (once : (changes.map Prod.fst).Nodup) {new old : Option String}
    (given : values changes name = (new.map Json.str).toList)
    (stored : optional members name str? = some old) :
    optional (patchMembers members changes) name str? = some (new.or old) := by
  cases new with
  | none => rw [optional_congr (values_of_unnamed once given members), stored, Option.none_or]
  | some text =>
      rw [optional_of_values (.str text) (by rw [values_of_change once given, changed?_str]; rfl)]
      rfl

/-- A dictionary of texts that is left out of a patch if it is empty is laid over the one that is
there. -/
theorem defaulted_dict_merged (once : (changes.map Prod.fst).Nodup) {new old : Labels}
    (given : values changes name = if new.isEmpty then [] else [ofDict .str new])
    (single : (values members name).length ≤ 1)
    (stored : defaulted members name Dict.empty (dict? str?) = some old) :
    defaulted (patchMembers members changes) name Dict.empty (dict? str?) =
      some (new.upon old) := by
  by_cases empty : new.isEmpty = true
  · rw [if_pos empty] at given
    have none_upon : new.upon old = old := by
      rw [Dict.upon, List.isEmpty_iff.1 empty]
      rfl
    rw [defaulted_congr (values_of_unnamed once given members), stored, none_upon]
  · rw [if_neg empty] at given
    have reads : dict? str? (.obj ((members.lookup name).getD .null).members) = some old := by
      rw [lookup_eq_head?]
      match found : values members name with
      | [] =>
          rw [defaulted_of_missing found] at stored
          obtain rfl := Option.some.inj stored
          rfl
      | [json] =>
          rw [defaulted_of_values json found] at stored
          cases json with
          | obj labels => exact stored
          | _ => cases stored
      | _ :: _ :: _ => simp [found] at single
    rw [defaulted_of_values _ (by rw [values_of_change once given, ofDict, changed?_obj]; rfl)]
    exact dict?_patchMembers reads new

end

/-! ## References -/

namespace Reference

/-- A reference with the fields that it leaves unset taken from another. -/
def upon (new : Reference) (old : Option Reference) : Reference where
  apiVersion := new.apiVersion.or (old.bind Reference.apiVersion)
  kind := new.kind.or (old.bind Reference.kind)
  name := new.name
  space := new.space.or (old.bind Reference.space)
  uid := new.uid.or (old.bind Reference.uid)

theorem once_write (reference : Reference) : (reference.write.members.map Prod.fst).Nodup := by
  obtain ⟨apiVersion, kind, name, space, uid⟩ := reference
  cases apiVersion <;> cases kind <;> cases space <;> cases uid <;>
    simp [write, members, member?]

theorem read?_patchMembers {members : List (String × Json)} (old : Option Reference)
    (given : GivenOnce ["apiVersion", "kind", "name", "namespace", "uid"] members)
    (apiVersion : optional members "apiVersion" str? = some (old.bind Reference.apiVersion))
    (kind : optional members "kind" str? = some (old.bind Reference.kind))
    (space : optional members "namespace" str? = some (old.bind Reference.space))
    (uid : optional members "uid" str? = some (old.bind Reference.uid)) (new : Reference) :
    read? (.obj (patchMembers members new.write.members)) = some (new.upon old) := by
  have once := new.once_write
  refine read?_obj_iff.2 ⟨given.patchMembers once, ?_, ?_, ?_, ?_, ?_⟩
  · exact optional_str_merged once (by simp [write, Json.members]) apiVersion
  · exact optional_str_merged once (by simp [write, Json.members]) kind
  · have named : values new.write.members "name" = [.str new.name] := by
      simp [write, Json.members]
    rw [required_of_values (.str new.name) (by rw [values_of_change once named, changed?_str]; rfl)]
    rfl
  · exact optional_str_merged once (by simp [write, Json.members]) space
  · exact optional_str_merged once (by simp [write, Json.members]) uid

/-- A reference that is merged into what is there lies over the reference that is there. -/
theorem read?_merged {json : Json} {name : String} (readable : json.Readable read? name)
    (new : Reference) :
    read? (.obj (patchMembers (json.target name).members new.write.members)) =
      some (new.upon (json.record? read? name)) := by
  rcases readable.cases with ⟨nothing, none_there⟩ | ⟨members, old, found, there, reads⟩
  · rw [nothing, none_there]
    exact read?_patchMembers none (by simp [GivenOnce]) rfl rfl rfl rfl new
  · obtain ⟨given, apiVersion, kind, -, space, uid⟩ := read?_obj_iff.1 reads
    rw [found, there]
    exact read?_patchMembers (some old) given apiVersion kind space uid new

end Reference

/-! ## Selectors -/

namespace Selector

/-- A selector with the labels that it does not ask for taken from another, and the requirements
too if it has none. -/
def upon (new : Selector) (old : Option Selector) : Selector where
  matchLabels := new.matchLabels.upon ((old.map Selector.matchLabels).getD Dict.empty)
  matchExpressions :=
    if new.matchExpressions = [] then (old.map Selector.matchExpressions).getD []
    else new.matchExpressions

/-- A selector in object form is read field by field. -/
theorem read?_obj_iff {members : List (String × Json)} {selector : Selector} :
    read? (.obj members) = some selector ↔
      GivenOnce ["matchLabels", "matchExpressions"] members ∧
        defaulted members "matchLabels" Dict.empty (dict? str?) = some selector.matchLabels ∧
        defaulted members "matchExpressions" [] (list? LabelRequirement.read?) =
          some selector.matchExpressions := by
  obtain ⟨labels, requirements⟩ := selector
  rw [read?, fields?_obj]
  split
  · simp [defaulted_known, Option.bind_eq_some_iff, *]
  · simp [*]

theorem once_write (selector : Selector) : (selector.write.members.map Prod.fst).Nodup := by
  obtain ⟨labels, requirements⟩ := selector
  cases requirements <;> by_cases empty : labels.isEmpty = true <;>
    simp [write, members, listMember, empty]

theorem read?_patchMembers {members : List (String × Json)} (old : Option Selector)
    (given : GivenOnce ["matchLabels", "matchExpressions"] members)
    (labels : defaulted members "matchLabels" Dict.empty (dict? str?) =
      some ((old.map Selector.matchLabels).getD Dict.empty))
    (requirements : defaulted members "matchExpressions" [] (list? LabelRequirement.read?) =
      some ((old.map Selector.matchExpressions).getD [])) (new : Selector) :
    read? (.obj (patchMembers members new.write.members)) = some (new.upon old) := by
  have once := new.once_write
  refine read?_obj_iff.2 ⟨given.patchMembers once, ?_, ?_⟩
  · refine defaulted_dict_merged once ?_ (given _ (by simp)) labels
    by_cases empty : new.matchLabels.isEmpty = true <;> simp [write, Json.members, empty]
  · by_cases none_new : new.matchExpressions = []
    · have unnamed : values new.write.members "matchExpressions" = [] := by
        by_cases empty : new.matchLabels.isEmpty = true <;>
          simp [write, Json.members, empty, none_new]
      rw [defaulted_congr (values_of_unnamed once unnamed members), requirements, upon,
        if_pos none_new]
    · have named : values new.write.members "matchExpressions" =
          [.arr (new.matchExpressions.map LabelRequirement.write)] := by
        by_cases empty : new.matchLabels.isEmpty = true <;>
          simp [write, Json.members, empty, none_new]
      rw [defaulted_of_values _ (by rw [values_of_change once named, changed?_arr]; rfl), upon,
        if_neg none_new]
      exact list?_map fun requirement _ => requirement.read?_write

/-- A selector that is merged into what is there lies over the selector that is there. -/
theorem read?_merged {json : Json} {name : String} (readable : json.Readable read? name)
    (new : Selector) :
    read? (.obj (patchMembers (json.target name).members new.write.members)) =
      some (new.upon (json.record? read? name)) := by
  rcases readable.cases with ⟨nothing, none_there⟩ | ⟨members, old, found, there, reads⟩
  · rw [nothing, none_there]
    exact read?_patchMembers none (by simp [GivenOnce]) rfl rfl new
  · obtain ⟨given, labels, requirements⟩ := read?_obj_iff.1 reads
    rw [found, there]
    exact read?_patchMembers (some old) given labels requirements new

end Selector

end BareMetal
