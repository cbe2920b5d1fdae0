import BareMetal.Json.Parser
import BareMetal.Json.Printer
import BareMetal.Json.Record
import BareMetal.Object.Resource
import BareMetal.Store.Error

/-!
# Answers of the API server

An answer below 400 holds what was asked for.  Any other refuses: its body may be a status object,
whose code and reason then count, whatever the answer's own code is.
-/

namespace BareMetal.Api

/-- An answer as it comes. -/
structure Answer where
  /-- The code of the answer. -/
  status : Nat
  /-- The text that came with it. -/
  body : String

namespace Answer

/-- The answer that holds a value. -/
def holding (json : Json) (status : Nat := 200) : Answer := ⟨status, json.write⟩

/-- The answer that refuses with a status object. -/
def refusing (code : Nat) (reason detail : String) : Answer :=
  holding (.obj [("apiVersion", .str "v1"), ("kind", .str "Status"), ("metadata", .obj []),
    ("status", .str "Failure"), ("message", .str detail), ("reason", .str reason),
    ("code", .int code)]) code

end Answer

/-- Why a request to the API server did not give what was asked for. -/
inductive Failure where
  /-- The request cannot be sent. -/
  | unsendable
  /-- No answer came. -/
  | unanswered
  /-- The server refused with a code, a reason and an explanation. -/
  | refused (code : Nat) (reason detail : String)
  /-- The answer is not what was asked for. -/
  | unreadable
  deriving DecidableEq

/-- The store error for a failure about an object. -/
def Failure.storeError (what : String) : Failure → StoreError
  | unsendable => .api "the request cannot be sent"
  | unanswered => .api "the server did not answer"
  | refused code reason detail => .ofRefusal code reason detail what
  | unreadable => .api "the answer cannot be read"

/-- The refusal that a status object spells out. -/
def refusal? (json : Json) : Option Failure := do
  let fields ← json.fields? ["status", "message", "reason", "code"]
  let _ ← fields.required "status" Json.str?
  return .refused (← fields.required "code" (Json.natural? 16)) (← fields.defaulted "reason" "" Json.str?)
    (← fields.defaulted "message" "" Json.str?)

/-- The refusal in an answer that refuses. -/
def Answer.refusal (answer : Answer) : Failure :=
  ((Json.parseTree? answer.body).bind refusal?).getD
    (.refused answer.status "" answer.body)

/-- Whether an answer refuses. -/
def Answer.refuses (answer : Answer) : Bool := 400 ≤ answer.status && answer.status < 600

/-- What an answer gives, read as the type that was asked for. -/
def Answer.read {α : Type} (answer : Answer) (read : Json → Option α) : Except Failure α :=
  if answer.refuses then .error answer.refusal
  else
    match (Json.parseTree? answer.body).bind read with
    | some value => .ok value
    | none => .error .unreadable

/-! ## What is asked for -/

/-- What a list tells about itself. -/
def readListMetadata? (json : Json) : Option Unit := do
  let fields ← json.members?
  let _ ← fields.optional "continue" Json.str?
  let _ ← fields.optional "remainingItemCount" Json.int64?
  let _ ← fields.optional "resourceVersion" Json.str?
  let _ ← fields.optional "selfLink" Json.str?

/-- The items of a list of objects, `null` standing for none.  What else the list holds has to stand
for values. -/
def readItems? {α : Type} (read : Json → Option α) (json : Json) : Option (List α) := do
  let names := ["metadata", "items"]
  let others := (← json.members?).filter fun field => !names.contains field.1
  guard (others.all fun field => field.2.isReadable)
  let fields ← json.fields? names
  fields.defaulted "metadata" () readListMetadata?
  return (← fields.required "items" (Json.orNull (Json.list? read))).getD []

/-- A word for how something went. -/
def readSuccess? (json : Json) : Option Unit :=
  match json.alternative? with
  | some "Success" => some ()
  | some "Failure" => some ()
  | _ => none

/-- A cause of how something went. -/
def readCause? (json : Json) : Option Unit := do
  let fields ← json.fields? ["reason", "message", "field"]
  let _ ← fields.defaulted "reason" "" Json.str?
  let _ ← fields.defaulted "message" "" Json.str?
  let _ ← fields.defaulted "field" "" Json.str?

/-- What a status object tells about the object concerned. -/
def readDetails? (json : Json) : Option Unit := do
  let texts := ["name", "group", "kind", "uid"]
  let fields ← json.fields? (texts ++ ["causes", "retryAfterSeconds"])
  let _ ← texts.mapM fun name => fields.defaulted name "" Json.str?
  let _ ← fields.defaulted "causes" [] (Json.list? readCause?)
  let _ ← fields.defaulted "retryAfterSeconds" 0 (Json.natural? 32)

/-- A status object that tells how something went. -/
def readStatus? (json : Json) : Option Unit := do
  let fields ← json.fields? ["status", "code", "message", "reason", "details"]
  let _ ← fields.optional "status" readSuccess?
  let _ ← fields.defaulted "code" 0 (Json.natural? 16)
  let _ ← fields.defaulted "message" "" Json.str?
  let _ ← fields.defaulted "reason" "" Json.str?
  let _ ← fields.optional "details" readDetails?

/-- The answer to a removal, which has to stand for a value: a status object, if the last kind that
it tells says so, or the removed object. -/
def readRemoved? {α : Type} (read : Json → Option α) (json : Json) : Option Unit := do
  let json ← json.any?
  if (json.lastWins.get? "kind") == some (.str "Status") then readStatus? json
  else (read json).map fun _ => ()

end BareMetal.Api
