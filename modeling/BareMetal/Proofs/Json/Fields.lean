import BareMetal.Json.Record

/-!
# Fields of records

What a reader makes of a record depends on the values that are given for each of its fields, and
not on the order of the members or on members of other names.  A record that is read as it was
written has in every field the value that was written, or leaves the field to its default.
-/

namespace BareMetal.Json

/-! ## Values by name -/

namespace Fields

@[simp] theorem values_nil (name : String) : values [] name = [] := rfl

@[simp] theorem values_cons (field : String × Json) (rest : Fields) (name : String) :
    values (field :: rest) name =
      if field.1 = name then field.2 :: values rest name else values rest name := by
  by_cases same : field.1 = name <;> simp [values, same]

@[simp] theorem values_append (front back : Fields) (name : String) :
    values (front ++ back) name = values front name ++ values back name :=
  List.filterMap_append

@[simp] theorem values_member? {α : Type} (written : String) (write : α → Json)
    (value : Option α) (name : String) :
    values (member? written write value) name =
      if written = name then (value.map write).toList else [] := by
  cases value <;> simp [member?]

@[simp] theorem values_listMember {α : Type} (written : String) (write : α → Json)
    (items : List α) (name : String) :
    values (listMember written write items) name =
      if written = name ∧ items ≠ [] then [arr (items.map write)] else [] := by
  cases items <;> simp [listMember]

@[simp] theorem values_textMember (written text name : String) :
    values (textMember written text) name =
      if written = name ∧ text ≠ "" then [str text] else [] := by
  by_cases empty : text = "" <;> simp [textMember, empty]

/-- What is left out if it is empty is not given twice. -/
@[simp] theorem length_unless_le (empty : Prop) [Decidable empty] (json : Json) :
    (if empty then [] else [json]).length ≤ 1 := by
  split <;> simp

/-- The first value is the one that is looked up. -/
theorem lookup_eq_head? (fields : Fields) (name : String) :
    List.lookup name fields = (values fields name).head? := by
  induction fields with
  | nil => rfl
  | cons field rest ih =>
      obtain ⟨first, json⟩ := field
      by_cases same : first = name
      · simp [same]
      · have apart : (name == first) = false := by simpa using Ne.symm same
        simp [List.lookup_cons, same, apart, ih]

theorem length_values (fields : Fields) (name : String) :
    (values fields name).length = (fields.map Prod.fst).count name := by
  induction fields with
  | nil => rfl
  | cons field rest ih => by_cases same : field.1 = name <;> simp [same, ih]

/-- What is kept by name has all values of the names that are kept. -/
theorem values_filter (keep : String → Bool) (fields : Fields) (name : String) :
    values (fields.filter fun field => keep field.1) name =
      if keep name then values fields name else [] := by
  induction fields with
  | nil => simp
  | cons field rest ih =>
      by_cases same : field.1 = name
      · subst same
        cases kept : keep field.1 <;> simp_all
      · cases kept : keep field.1 <;> simp [kept, same, ih]

/-- The fields of some names. -/
def known (fields : Fields) (names : List String) : Fields :=
  fields.filter fun field => names.contains field.1

theorem values_known {names : List String} {name : String} (listed : name ∈ names)
    (fields : Fields) : values (fields.known names) name = values fields name := by
  rw [known, values_filter names.contains, if_pos (List.contains_iff_mem.2 listed)]

/-! ## Reading by name -/

variable {α : Type} {fields : Fields} {name : String} {read : Json → Option α}

variable {others : Fields}

theorem required_congr (same : values fields name = values others name) :
    fields.required name read = others.required name read := by
  rw [required, same, required]

theorem defaulted_congr (same : values fields name = values others name) (default : α) :
    fields.defaulted name default read = others.defaulted name default read := by
  rw [defaulted, same, defaulted]

theorem optional_congr (same : values fields name = values others name) :
    fields.optional name read = others.optional name read := by
  rw [optional, same, optional]

theorem required_known {names : List String} (listed : name ∈ names) (fields : Fields)
    (read : Json → Option α) :
    (fields.known names).required name read = fields.required name read :=
  required_congr (values_known listed fields)

theorem defaulted_known {names : List String} (listed : name ∈ names) (fields : Fields)
    (default : α) (read : Json → Option α) :
    (fields.known names).defaulted name default read = fields.defaulted name default read :=
  defaulted_congr (values_known listed fields) default

theorem optional_known {names : List String} (listed : name ∈ names) (fields : Fields)
    (read : Json → Option α) :
    (fields.known names).optional name read = fields.optional name read :=
  optional_congr (values_known listed fields)

theorem required_of_values (json : Json) (given : values fields name = [json]) :
    fields.required name read = read json := by
  simp only [required, given, readLast]
  cases read json <;> rfl

theorem defaulted_of_values (json : Json) {default : α} (given : values fields name = [json]) :
    fields.defaulted name default read = read json := by
  simp only [defaulted, given, readLast]
  cases read json <;> rfl

theorem defaulted_of_missing {default : α} (missing : values fields name = []) :
    fields.defaulted name default read = some default := by
  simp [defaulted, missing, readLast]

theorem optional_of_values (json : Json) (given : values fields name = [json]) :
    fields.optional name read = orNull read json := by
  simp only [optional, given, readLast]
  cases orNull read json <;> rfl

theorem optional_of_missing (missing : values fields name = []) :
    fields.optional name read = some none := by
  simp [optional, missing, readLast]

/-- A value that is read back is no `null` to a reader that refuses `null`. -/
theorem orNull_of_read {json : Json} {value : α} (refuses : read null = none)
    (back : read json = some value) : orNull read json = some (some value) := by
  cases json with
  | null => simp [refuses] at back
  | _ => simp [orNull, back]

/-- An optional field is read as it was written. -/
theorem optional_of_written (write : α → Json) {value : Option α}
    (given : values fields name = (value.map write).toList) (refuses : read null = none)
    (back : ∀ item ∈ value, read (write item) = some item) :
    fields.optional name read = some value := by
  cases value with
  | none => exact optional_of_missing given
  | some item => rw [optional_of_values _ given, orNull_of_read refuses (back item rfl)]

/-- A list field is read as it was written, also if the empty list was left out. -/
theorem defaulted_of_written_list {read : Json → Option (List α)} (write : List α → Json)
    {items : List α} (given : values fields name = if items ≠ [] then [write items] else [])
    (back : read (write items) = some items) :
    fields.defaulted name [] read = some items := by
  by_cases empty : items = []
  · subst empty
    exact defaulted_of_missing given
  · rw [if_pos empty] at given
    rw [defaulted_of_values _ given, back]

/-- A text field is read as it was written, also if the empty text was left out. -/
theorem defaulted_of_written_text {text : String}
    (given : values fields name = if text ≠ "" then [str text] else []) :
    fields.defaulted name "" str? = some text := by
  by_cases empty : text = ""
  · subst empty
    exact defaulted_of_missing given
  · rw [if_pos empty] at given
    exact defaulted_of_values _ given

end Fields

/-! ## Records in object form -/

/-- Each field of a record is given at most once. -/
def GivenOnce (names : List String) (fields : Fields) : Prop :=
  ∀ name ∈ names, (fields.values name).length ≤ 1

instance (names : List String) (fields : Fields) : Decidable (GivenOnce names fields) :=
  inferInstanceAs (Decidable (∀ name ∈ names, _))

theorem nodup_known_iff (names : List String) (members : Fields) :
    ((members.known names).map Prod.fst).Nodup ↔ GivenOnce names members := by
  rw [List.nodup_iff_count]
  constructor
  · intro once name listed
    have bound := once name
    rwa [← Fields.length_values, Fields.values_known listed] at bound
  · intro once name
    rw [← Fields.length_values, Fields.known, Fields.values_filter names.contains]
    split
    · rename_i listed
      exact once name (List.contains_iff_mem.1 listed)
    · exact Nat.zero_le 1

/-- An object has the fields of a record if it gives none of them twice. -/
theorem fields?_obj (names : List String) (members : Fields) :
    fields? names (obj members) =
      if GivenOnce names members then some (members.known names) else none := by
  simp only [fields?, ← nodup_known_iff, Fields.known]

theorem fields?_obj_of_once {names : List String} {members : Fields}
    (once : GivenOnce names members) :
    fields? names (obj members) = some (members.known names) := by
  rw [fields?_obj, if_pos once]

/-- Reads that follow each other give a value if each of them does. -/
theorem chain_eq_some_iff {α β : Type} {first : Option α} {next : α → Option β} {result : β} :
    first >>= next = some result ↔ ∃ value, first = some value ∧ next value = some result :=
  Option.bind_eq_some_iff

/-- A record is read from the fields of its names, each of them given at most once. -/
theorem fields?_obj_bind_eq_some_iff {α : Type} {names : List String} {members : Fields}
    {read : Fields → Option α} {value : α} :
    (fields? names (obj members) >>= read) = some value ↔
      GivenOnce names members ∧ read (members.known names) = some value := by
  rw [fields?_obj]
  split
  · rename_i once
    exact (and_iff_right once).symm
  · rename_i twice
    exact iff_of_false (fun reads => nomatch reads) fun reads => twice reads.1

/-! ## Lists -/

/-- A list is read as it was written if each of its items is. -/
theorem list?_map {α : Type} {read : Json → Option α} {write : α → Json} {items : List α}
    (back : ∀ item ∈ items, read (write item) = some item) :
    list? read (arr (items.map write)) = some items := by
  change (items.map write).mapM read = some items
  induction items with
  | nil => rfl
  | cons item rest ih =>
      rw [List.map_cons, List.mapM_cons, back item List.mem_cons_self,
        ih fun other member => back other (List.mem_cons_of_mem item member)]
      rfl

theorem list?_strings (texts : List String) : list? str? (strings texts) = some texts :=
  list?_map fun _ _ => rfl

end BareMetal.Json
