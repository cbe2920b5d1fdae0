/-!
# Store errors

Why the store of objects, or a workload cluster, did not do what it was asked.
-/

namespace BareMetal

/-- Why a request to a store or a workload cluster failed. -/
inductive StoreError where
  /-- There is no such object. -/
  | notFound (what : String)
  /-- An object of the same identity is there already. -/
  | alreadyExists (what : String)
  /-- The object changed since it was read. -/
  | conflict (what : String)
  /-- The API server failed, could not be reached or gave an answer that cannot be read. -/
  | api (detail : String)
  /-- The kubeconfig of a workload cluster could not be loaded. -/
  | kubeconfig (detail : String)
  /-- The request cannot be met as it was made. -/
  | invalidRequest (detail : String)
  deriving DecidableEq

namespace StoreError

/-- The message for an error. -/
def message : StoreError → String
  | notFound what => "Not found: " ++ what
  | alreadyExists what => "Already exists: " ++ what
  | conflict what => "Conflict: " ++ what
  | api detail => "Kubernetes error: " ++ detail
  | kubeconfig detail => "Kubeconfig error: " ++ detail
  | invalidRequest detail => "Invalid request: " ++ detail

/-- The word for the kind of an error. -/
def word : StoreError → String
  | notFound _ => "NotFound"
  | alreadyExists _ => "AlreadyExists"
  | conflict _ => "Conflict"
  | api _ => "Kube"
  | kubeconfig _ => "Kubeconfig"
  | invalidRequest _ => "InvalidRequest"

/-- The error of the kind with a word. -/
def ofWord? (detail : String) : (word : String) → Option StoreError
  | "NotFound" => some (notFound detail)
  | "AlreadyExists" => some (alreadyExists detail)
  | "Conflict" => some (conflict detail)
  | "Kube" => some (api detail)
  | "Kubeconfig" => some (kubeconfig detail)
  | "InvalidRequest" => some (invalidRequest detail)
  | _ => none

/-- Whether an object is missing. -/
def isNotFound : StoreError → Bool
  | notFound _ => true
  | _ => false

/-- Whether an object is there already. -/
def isAlreadyExists : StoreError → Bool
  | alreadyExists _ => true
  | _ => false

/-- The error for the code and the reason with which the API server refused something about an
object. -/
def ofRefusal (code : Nat) (reason detail what : String) : StoreError :=
  if code = 404 then notFound what
  else if code = 409 then
    if reason = "AlreadyExists" then alreadyExists what else conflict what
  else api detail

end StoreError

end BareMetal
