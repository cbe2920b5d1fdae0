import BareMetal.Yaml.Value

/-!
# Reading records of YAML values

A record is written as a mapping whose keys are texts, or as nothing, which stands for a mapping
without entries.  Entries with other keys are passed over, and a field is given at most once.  The
same goes for lists: nothing stands for a list without items.  A tag does not matter where the
value below it has the right form.
-/

namespace BareMetal.Yaml.Value

/-- The fields found for a record, by name. -/
abbrev Fields := List (String × Value)

/-- A value without its tags. -/
def untagged : Value → Value
  | tagged _ value => untagged value
  | value => value

/-- A text. -/
def str? (value : Value) : Option String :=
  match value.untagged with
  | scalar (.str text) => some text
  | _ => none

/-- A truth value. -/
def bool? (value : Value) : Option Bool :=
  match value.untagged with
  | scalar (.bool truth) => some truth
  | _ => none

/-- A list, each item read in turn. -/
def list? {α : Type} (read : Value → Option α) (value : Value) : Option (List α) :=
  match value.untagged with
  | sequence items => items.mapM read
  | scalar .null => some []
  | _ => none

/-- The entries of a mapping whose keys are texts. -/
def members? (value : Value) : Option Fields :=
  match value.untagged with
  | mapping entries => entries.mapM fun entry => do return (← entry.1.str?, entry.2)
  | scalar .null => some []
  | _ => none

/-- The values given for the fields `names` of a record. -/
def fields? (names : List String) (value : Value) : Option Fields := do
  let known := (← value.members?).filter fun member => names.contains member.1
  if (known.map (·.1)).Nodup then return known else none

/-- A mapping from texts to texts. -/
def texts? (value : Value) : Option (List (String × String)) := do
  (← value.members?).mapM fun member => do return (member.1, ← member.2.str?)

/-- One of several alternatives without content: its name, or its name as the tag of nothing. -/
def alternative? : Value → Option String
  | scalar (.str name) => some name
  | tagged name (scalar .null) => some name
  | _ => none

mutual

/-- Whether a value has keys that are texts, and no tags, throughout. -/
def isPlain : Value → Bool
  | scalar _ => true
  | sequence items => arePlain items
  | mapping entries => entriesArePlain entries
  | tagged _ _ => false

/-- `isPlain` of every item of a list. -/
def arePlain : List Value → Bool
  | [] => true
  | item :: rest => isPlain item && arePlain rest

/-- `isPlain` of every value of a mapping, and whether its keys are texts. -/
def entriesArePlain : List (Value × Value) → Bool
  | [] => true
  | (key, value) :: rest => key.str?.isSome && isPlain value && entriesArePlain rest

end

namespace Fields

/-- A field that has to be given. -/
def required {α : Type} (fields : Fields) (name : String) (read : Value → Option α) : Option α :=
  (fields.lookup name).bind read

/-- A field with a default.  It may be left out, but not be nothing. -/
def defaulted {α : Type} (fields : Fields) (name : String) (default : α)
    (read : Value → Option α) : Option α :=
  match fields.lookup name with
  | none => some default
  | some value => read value

/-- A field that may be left out or be nothing. -/
def optional {α : Type} (fields : Fields) (name : String) (read : Value → Option α) :
    Option (Option α) :=
  match fields.lookup name with
  | none | some (scalar .null) => some none
  | some value => (read value).map some

end Fields

end BareMetal.Yaml.Value
