import BareMetal.Object.Metadata

/-!
# Conditions

A condition reports one observed aspect of an object.  A list of conditions holds each type at
most once, `Ready` in front and the others in the order of their types.  Reporting a condition
again without a change of status keeps the time of its last transition.
-/

namespace BareMetal

/-- Whether a condition holds. -/
inductive ConditionStatus where
  /-- The condition holds. -/
  | holds
  /-- The condition does not hold. -/
  | fails
  /-- Not determined yet. -/
  | unknown
  deriving DecidableEq

namespace ConditionStatus

/-- The word for a status. -/
def word : ConditionStatus → String
  | holds => "True"
  | fails => "False"
  | unknown => "Unknown"

/-- The status that a word stands for. -/
def ofWord? : String → Option ConditionStatus
  | "True" => some holds
  | "False" => some fails
  | "Unknown" => some unknown
  | _ => none

end ConditionStatus

/-- How bad it is that a condition does not hold. -/
inductive ConditionSeverity where
  /-- An operator has to act. -/
  | error
  /-- Expected to pass. -/
  | warning
  /-- For information. -/
  | info
  deriving DecidableEq

namespace ConditionSeverity

/-- The word for a severity. -/
def word : ConditionSeverity → String
  | error => "Error"
  | warning => "Warning"
  | info => "Info"

/-- The severity that a word stands for. -/
def ofWord? : String → Option ConditionSeverity
  | "Error" => some error
  | "Warning" => some warning
  | "Info" => some info
  | _ => none

end ConditionSeverity

/-- One observed aspect of an object. -/
structure Condition where
  /-- What is observed. -/
  type : String
  /-- Whether it holds. -/
  status : ConditionStatus
  /-- How bad it is if it does not hold. -/
  severity : Option ConditionSeverity := none
  /-- A word for the reason of the last transition. -/
  reason : Option String := none
  /-- Details for people. -/
  message : Option String := none
  /-- When the status last changed. -/
  lastTransitionTime : Option Timestamp := none
  deriving DecidableEq

namespace Condition

/-- The type that reports overall readiness. -/
def readyType : String := "Ready"

/-- The type that reports whether the provider ID was stamped on the workload node. -/
def providerSetType : String := "ProviderSet"

/-- The reason given when the workload node could not be stamped. -/
def providerUpdateFailed : String := "ProviderUpdateFailed"

/-- A condition that holds from an instant on. -/
def holding (type : String) (now : Timestamp) : Condition where
  type
  status := .holds
  lastTransitionTime := some now

/-- A condition that fails from an instant on. -/
def failing (type reason : String) (severity : ConditionSeverity) (message : String)
    (now : Timestamp) : Condition where
  type
  status := .fails
  severity := some severity
  reason := some reason
  message := some message
  lastTransitionTime := some now

/-- Whether two conditions report the same, types and times apart. -/
def sameReport (left right : Condition) : Bool :=
  left.status == right.status && left.severity == right.severity &&
    left.reason == right.reason && left.message == right.message

/-- Whether a condition may stand before another: `Ready` in front, the others by type. -/
def inOrder (left right : Condition) : Bool :=
  if left.type = readyType then true
  else if right.type = readyType then false
  else decide (left.type ≤ right.type)

/-- The new condition in place of an old one; without a change of status the time stays. -/
def settle (old new : Condition) : Condition :=
  if old.status = new.status then { new with lastTransitionTime := old.lastTransitionTime }
  else new

/-- Puts a condition in the place of the first of its type, or at the end. -/
def amend (new : Condition) : List Condition → List Condition
  | [] => [new]
  | old :: rest =>
      if old.type = new.type then settle old new :: rest else old :: amend new rest

/-- The first condition of a type. -/
def find? (conditions : List Condition) (type : String) : Option Condition :=
  conditions.find? fun condition => condition.type == type

/-- Whether the condition of a type is reported to hold. -/
def isTrue (conditions : List Condition) (type : String) : Bool :=
  (find? conditions type).any fun condition => condition.status == .holds

/-- Reports a condition.  A report of the same again leaves the whole list as it is; any other
leaves it in order. -/
def set (conditions : List Condition) (new : Condition) : List Condition :=
  if (find? conditions new.type).any fun old => old.sameReport new then conditions
  else (amend new conditions).mergeSort inOrder

/-- A condition from its JSON form. -/
def read? (json : Json) : Option Condition := do
  let fields ←
    json.fields? ["type", "status", "severity", "reason", "message", "lastTransitionTime"]
  return {
    type := ← fields.required "type" Json.str?
    status := ← fields.required "status" fun json =>
      json.alternative?.bind ConditionStatus.ofWord?
    severity := ← fields.optional "severity" fun json =>
      json.alternative?.bind ConditionSeverity.ofWord?
    reason := ← fields.optional "reason" Json.str?
    message := ← fields.optional "message" Json.str?
    lastTransitionTime := ← fields.optional "lastTransitionTime" Timestamp.read? }

/-- The JSON form of a condition. -/
def write (condition : Condition) : Json :=
  .obj <|
    [("type", .str condition.type), ("status", .str condition.status.word)] ++
    Json.member? "severity" (fun severity => .str severity.word) condition.severity ++
    Json.member? "reason" .str condition.reason ++
    Json.member? "message" .str condition.message ++
    Json.member? "lastTransitionTime" (fun time => .str time.write) condition.lastTransitionTime

end Condition

end BareMetal
