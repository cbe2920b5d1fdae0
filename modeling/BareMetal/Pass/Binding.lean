import BareMetal.Pass.Commit

/-!
# Passes over bindings

A binding is ready as long as its server is there.
-/

namespace BareMetal

/-- The binding with its readiness set. -/
def ServerBinding.withReady (binding : ServerBinding) (ready : Bool) : ServerBinding :=
  { binding with status := some { binding.status.getD {} with ready } }

/-- Looks whether a binding's server is there: the result, and the binding as it is to be written
back. -/
def refreshReadiness (binding : ServerBinding) :
    Pass (Except PassError Outcome × ServerBinding) := do
  match ← Pass.call (.getServer binding.anyName) with
  | .ok _ => return (.ok .done, binding.withReady true)
  | .error (.notFound _) => return (.ok .done, binding.withReady false)
  | .error error => return (.error (.store error), binding)

/-- A pass over the binding of a name. -/
def bindingPass (name : String) : Pass (Except PassError Outcome) := do
  match ← Pass.call (.getServerBinding name) with
  | .ok binding =>
      Pass.learn (.bindingSeen binding)
      let (result, after) ← refreshReadiness binding
      finishBinding binding after result
  | .error (.notFound _) =>
      Pass.learn (.bindingGone name)
      return .ok .done
  | .error error => return .error (.store error)

end BareMetal
