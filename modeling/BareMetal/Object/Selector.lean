import BareMetal.Object.Metadata
import BareMetal.Text.Quoted

/-!
# Label selectors

A selector asks for labels with given values and for requirements on labels.  A requirement is
well formed if its operator is known, its values fit the operator and it names a label.  The
first requirement that is not well formed makes the whole selector malformed.
-/

namespace BareMetal

/-- A requirement on one label. -/
structure LabelRequirement where
  /-- The name of the label. -/
  key : String
  /-- The word for what is required. -/
  operator : String
  /-- The values to compare with. -/
  values : List String := []
  deriving DecidableEq

namespace LabelRequirement

/-- A requirement from its JSON form. -/
def read? (json : Json) : Option LabelRequirement := do
  let fields ← json.fields? ["key", "operator", "values"]
  return {
    key := ← fields.required "key" Json.str?
    operator := ← fields.required "operator" Json.str?
    values := ← fields.defaulted "values" [] (Json.list? Json.str?) }

/-- The JSON form of a requirement. -/
def write (requirement : LabelRequirement) : Json :=
  .obj <|
    [("key", .str requirement.key), ("operator", .str requirement.operator)] ++
    Json.listMember "values" .str requirement.values

end LabelRequirement

/-- What can be required of a label. -/
inductive LabelOperator where
  /-- Its value is one of several. -/
  | isIn
  /-- Its value is none of several, or it is missing. -/
  | notIn
  /-- It is present. -/
  | exists
  /-- It is missing. -/
  | doesNotExist
  deriving DecidableEq

namespace LabelOperator

/-- The operator that a word stands for. -/
def ofWord? : String → Option LabelOperator
  | "In" => some isIn
  | "NotIn" => some notIn
  | "Exists" => some .exists
  | "DoesNotExist" => some doesNotExist
  | _ => none

/-- Whether a list of values fits an operator. -/
def fits (operator : LabelOperator) (values : List String) : Bool :=
  match operator with
  | isIn | notIn => !values.isEmpty
  | .exists | doesNotExist => values.isEmpty

/-- Whether the value of a label, if it is present, meets a requirement. -/
def isMet (operator : LabelOperator) (values : List String) (value : Option String) : Bool :=
  match operator with
  | isIn => value.any values.contains
  | notIn => value.all fun value => !values.contains value
  | .exists => value.isSome
  | doesNotExist => value.isNone

end LabelOperator

/-- Why a selector is malformed. -/
inductive SelectorFault where
  /-- A requirement has an operator that is not known. -/
  | unknownOperator (requirement : LabelRequirement)
  /-- A requirement's values do not fit its operator, or it names no label. -/
  | invalidRequirement (requirement : LabelRequirement)
  deriving DecidableEq

/-- The message for a malformed selector. -/
def SelectorFault.message : SelectorFault → String
  | unknownOperator requirement =>
      "unknown operator " ++ Text.quote requirement.operator ++ " for key " ++
        Text.quote requirement.key
  | invalidRequirement requirement =>
      "invalid requirement " ++ requirement.key ++ " " ++ requirement.operator ++ " " ++
        Text.quoteList requirement.values

/-- The operator of a requirement, provided the requirement is well formed. -/
def LabelRequirement.operator? (requirement : LabelRequirement) :
    Except SelectorFault LabelOperator :=
  match LabelOperator.ofWord? requirement.operator with
  | none => .error (.unknownOperator requirement)
  | some operator =>
      if operator.fits requirement.values && !requirement.key.isEmpty then .ok operator
      else .error (.invalidRequirement requirement)

/-- Whether labels meet a requirement.  One that is not well formed is never met. -/
def LabelRequirement.isMet (requirement : LabelRequirement) (labels : Labels) : Bool :=
  match requirement.operator? with
  | .ok operator => operator.isMet requirement.values (labels.get? requirement.key)
  | .error _ => false

/-- Asks for labels with given values and for requirements on labels, all at once. -/
structure Selector where
  /-- Labels that have to have exactly these values. -/
  matchLabels : Labels := Dict.empty
  /-- Requirements that have to be met. -/
  matchExpressions : List LabelRequirement := []
  deriving DecidableEq

namespace Selector

/-- A selector from its JSON form. -/
def read? (json : Json) : Option Selector := do
  let fields ← json.fields? ["matchLabels", "matchExpressions"]
  return {
    matchLabels := ← fields.defaulted "matchLabels" Dict.empty (Json.dict? Json.str?)
    matchExpressions := ← fields.defaulted "matchExpressions" []
      (Json.list? LabelRequirement.read?) }

/-- The JSON form of a selector. -/
def write (selector : Selector) : Json :=
  .obj <|
    (if selector.matchLabels.isEmpty then []
      else [("matchLabels", Json.ofDict .str selector.matchLabels)]) ++
    Json.listMember "matchExpressions" LabelRequirement.write selector.matchExpressions

/-- The fault of the first requirement that has one. -/
def faultIn : List LabelRequirement → Option SelectorFault
  | [] => none
  | requirement :: rest =>
      match requirement.operator? with
      | .error fault => some fault
      | .ok _ => faultIn rest

/-- The fault of a malformed selector. -/
def fault? (selector : Selector) : Option SelectorFault := faultIn selector.matchExpressions

/-- Accepts a selector unless it is malformed. -/
def validate (selector : Selector) : Except SelectorFault Unit :=
  match selector.fault? with
  | some fault => .error fault
  | none => .ok ()

/-- Whether labels have all that a well-formed selector asks for. -/
def accepts (selector : Selector) (labels : Labels) : Bool :=
  (selector.matchLabels.entries.all fun pair => labels.get? pair.1 == some pair.2) &&
    selector.matchExpressions.all fun requirement => requirement.isMet labels

/-- Whether a selector matches labels.  A malformed selector is an error, also if labels fail an
earlier requirement. -/
def matches? (selector : Selector) (labels : Labels) : Except SelectorFault Bool :=
  match selector.fault? with
  | some fault => .error fault
  | none => .ok (selector.accepts labels)

end Selector

end BareMetal
