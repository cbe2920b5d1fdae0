import BareMetal.Json.Basic
import BareMetal.Dict

/-!
# Reading records

The API's types are records with named fields.  A record is written as an object, and read also
from an array that holds the fields in the order of their declaration.  Members with other names
are passed over, a field given twice is refused, and a value is never converted: a number is no
text and `null` is no list.  Some records are read from objects alone; there a field may be given
more than once, each time with a value that can be read, and the last one counts.
-/

namespace BareMetal.Json

/-- The fields found for a record, by name. -/
abbrev Fields := List (String × Json)

/-- The values given for the fields `names` of a record, listed in order of declaration. -/
def fields? (names : List String) : Json → Option Fields
  | obj members =>
      let known := members.filter fun member => names.contains member.1
      if (known.map (·.1)).Nodup then some known else none
  | arr items => if items.length ≤ names.length then some (names.zip items) else none
  | _ => none

/-- The members of an object, for records that are read from objects alone. -/
def members? : Json → Option Fields
  | obj members => some members
  | _ => none

/-- The last of several values, each of which has to be readable, if there is one. -/
def readLast {α : Type} (read : Json → Option α) : List Json → Option (Option α)
  | [] => some none
  | json :: rest => do
      let value ← read json
      let later ← readLast read rest
      return some (later.getD value)

/-- A value or `null`, which stands for no value. -/
def orNull {α : Type} (read : Json → Option α) : Json → Option (Option α)
  | null => some none
  | json => (read json).map some

namespace Fields

/-- The values given for a field. -/
def values (fields : Fields) (name : String) : List Json :=
  fields.filterMap fun field => if field.1 == name then some field.2 else none

/-- A field that has to be given. -/
def required {α : Type} (fields : Fields) (name : String) (read : Json → Option α) : Option α :=
  (readLast read (fields.values name)).join

/-- A field with a default.  It may be left out, but not be `null`. -/
def defaulted {α : Type} (fields : Fields) (name : String) (default : α)
    (read : Json → Option α) : Option α :=
  (readLast read (fields.values name)).map fun value => value.getD default

/-- A field that may be left out or be `null`. -/
def optional {α : Type} (fields : Fields) (name : String) (read : Json → Option α) :
    Option (Option α) :=
  (readLast (orNull read) (fields.values name)).map Option.join

end Fields

/-- A truth value. -/
def bool? : Json → Option Bool
  | bool value => some value
  | _ => none

/-- A text. -/
def str? : Json → Option String
  | str value => some value
  | _ => none

/-- A whole number that fits in 64 bits with a sign. -/
def int64? : Json → Option Int
  | int value => if -Int.pow 2 63 ≤ value ∧ value < Int.pow 2 63 then some value else none
  | _ => none

/-- A whole number without a sign that fits in a number of bits. -/
def natural? (bits : Nat) : Json → Option Nat
  | int value => if 0 ≤ value ∧ value < Int.pow 2 bits then some value.toNat else none
  | _ => none

/-- A value of any kind, as long as it stands for one throughout. -/
def any? (json : Json) : Option Json := if json.isReadable then some json else none

/-- A list, each item read in turn. -/
def list? {α : Type} (read : Json → Option α) : Json → Option (List α)
  | arr items => items.mapM read
  | _ => none

/-- The values of a list of members, each read in turn. -/
def readValues {α : Type} (read : Json → Option α) :
    List (String × Json) → Option (List (String × α))
  | [] => some []
  | (name, json) :: rest => do
      let value ← read json
      let values ← readValues read rest
      return (name, value) :: values

/-- A dictionary from texts, each value read in turn. -/
def dict? {α : Type} (read : Json → Option α) : Json → Option (Dict String α)
  | obj members => (readValues read members).map Dict.ofList
  | _ => none

/-- A dictionary of values as an object. -/
def ofDict {α : Type} (write : α → Json) (dict : Dict String α) : Json :=
  obj (dict.entries.map fun entry => (entry.1, write entry.2))

/-- The name of one of several alternatives without content: a text, or an object whose only
member has that name and holds `null`. -/
def alternative? : Json → Option String
  | str name => some name
  | obj [(name, null)] => some name
  | _ => none

end BareMetal.Json
