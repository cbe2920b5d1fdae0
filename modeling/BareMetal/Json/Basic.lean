/-!
# JSON trees

The values that the Kubernetes API exchanges.  An object keeps its members in writing order and
may hold a name twice, because a reader is allowed to refuse that; whole numbers are kept apart
from numbers written with a fraction or an exponent, because a whole-number field accepts only the
former.  What is well-formed without standing for a value has a place in a tree too, because a
reader passes over what it does not ask for.
-/

namespace BareMetal

/-- A JSON value. -/
inductive Json where
  /-- The value `null`. -/
  | null
  /-- A truth value. -/
  | bool (value : Bool)
  /-- A whole number that fits in 64 bits, signed or unsigned. -/
  | int (value : Int)
  /-- The number `mantissa * 10 ^ exponent` in any other spelling. -/
  | real (mantissa exponent : Int)
  /-- A text. -/
  | str (value : String)
  /-- A list of values. -/
  | arr (items : List Json)
  /-- Named values in writing order. -/
  | obj (members : List (String × Json))
  /-- A well-formed text that stands for no value: a number beyond the range of numbers, a text
  with half of a surrogate pair, or a value too deep inside others. -/
  | unreadable
  deriving Inhabited, BEq

namespace Json

/-- The members of an object; none for any other value. -/
def members : Json → List (String × Json)
  | obj members => members
  | _ => []

/-- The first value of an object under a name. -/
def get? (json : Json) (name : String) : Option Json := json.members.lookup name

/-- The members apart from those of one name. -/
def dropMember (name : String) (members : List (String × Json)) : List (String × Json) :=
  members.filter fun member => member.1 != name

/-- The members with one name set to a value, in place of all it held. -/
def setMember (name : String) (value : Json) (members : List (String × Json)) :
    List (String × Json) :=
  dropMember name members ++ [(name, value)]

/-- A list of texts. -/
def strings (texts : List String) : Json := arr (texts.map str)

/-- A member that is written only when there is a value for it. -/
def member? {α : Type} (name : String) (write : α → Json) : Option α → List (String × Json)
  | none => []
  | some value => [(name, write value)]

/-- A list member that is written only when the list has an item. -/
def listMember {α : Type} (name : String) (write : α → Json) : List α → List (String × Json)
  | [] => []
  | items => [(name, arr (items.map write))]

/-- A text member that is written only when the text is not empty. -/
def textMember (name : String) (text : String) : List (String × Json) :=
  if text.isEmpty then [] else [(name, str text)]

/-- An optional value, `null` when there is none. -/
def ofOption {α : Type} (write : α → Json) : Option α → Json
  | none => null
  | some value => write value

mutual

/-- Whether a tree stands for a value throughout. -/
def isReadable : Json → Bool
  | unreadable => false
  | arr items => itemsAreReadable items
  | obj members => membersAreReadable members
  | _ => true

/-- `isReadable` of every item of a list. -/
def itemsAreReadable : List Json → Bool
  | [] => true
  | item :: rest => isReadable item && itemsAreReadable rest

/-- `isReadable` of the value of every member. -/
def membersAreReadable : List (String × Json) → Bool
  | [] => true
  | (_, value) :: rest => isReadable value && membersAreReadable rest

end

mutual

/-- The value in which every object keeps, of several members of one name, only the last. -/
def lastWins : Json → Json
  | arr items => arr (lastWinsItems items)
  | obj members => obj (lastWinsMembers members)
  | other => other

/-- `lastWins` on every item of a list. -/
def lastWinsItems : List Json → List Json
  | [] => []
  | item :: rest => lastWins item :: lastWinsItems rest

/-- `lastWins` on every member, without members that a later one of the same name replaces. -/
def lastWinsMembers : List (String × Json) → List (String × Json)
  | [] => []
  | (name, value) :: rest =>
      if rest.any fun later => later.1 == name then lastWinsMembers rest
      else (name, lastWins value) :: lastWinsMembers rest

end

end Json

end BareMetal
