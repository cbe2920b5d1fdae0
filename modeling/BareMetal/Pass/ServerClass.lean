import BareMetal.Pass.Basic
import BareMetal.Qualification

/-!
# Passes over server classes

The status of a class names the servers that belong to it.  The built-in class `any` is kept
without restrictions, so that all accepted servers belong to it.
-/

namespace BareMetal

/-- Whether a filter keeps any server out beyond what no class takes. -/
def ServerClassSpec.isRestricted (spec : ServerClassSpec) : Bool :=
  spec.selector.isSome || !spec.qualifiers.isEmpty

/-- The filter without its restrictions. -/
def ServerClassSpec.unrestricted (spec : ServerClassSpec) : ServerClassSpec :=
  { environmentRef := spec.environmentRef }

/-- Takes the restrictions off the class `any`; gives the filter that the class has then. -/
def resetAny (name : String) (spec : ServerClassSpec) : Attempt ServerClassSpec := do
  if name = ServerClass.anyClass ∧ spec.isRestricted then
    Attempt.call (.updateServerClassSpec name spec.unrestricted)
    return spec.unrestricted
  else return spec

/-- The status of a class to which the given servers belong. -/
def ServerClassStatus.ofServers (servers : List Server) : ServerClassStatus where
  serversAvailable := (servers.filter fun server => !server.isInUse).map Server.anyName
  serversInUse := (servers.filter Server.isInUse).map Server.anyName

/-- Brings the status of a class that is there up to date. -/
def refreshClass (name : String) (serverClass : ServerClass) : Attempt Outcome := do
  let spec ← resetAny name serverClass.spec
  match qualifiedServers spec (← Attempt.call .listServers) with
  | .error fault => throw (.malformedSelector fault)
  | .ok servers =>
      let status := ServerClassStatus.ofServers servers
      if serverClass.status ≠ some status then
        Attempt.call (.updateServerClassStatus name status)
      return .done

/-- A pass over the class of a name. -/
def classPass (name : String) : Pass (Except PassError Outcome) := do
  match ← Pass.call (.getServerClass name) with
  | .ok serverClass => (refreshClass name serverClass).run
  | .error (.notFound _) => return .ok .done
  | .error error => return .error (.store error)

end BareMetal
