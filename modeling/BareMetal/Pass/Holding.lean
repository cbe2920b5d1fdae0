import BareMetal.Pass.Basic

/-!
# Which bindings a machine holds

The index is asked first, and what it says is checked against the store.  If nothing of it stands,
all bindings are listed, so that a gap in the index is never taken for a machine without a server.
-/

namespace BareMetal

/-- Whether a binding may stand before another: those without a name in front, the others by
name. -/
def ServerBinding.inNameOrder (left right : ServerBinding) : Bool :=
  match left.metadata.name, right.metadata.name with
  | none, _ => true
  | some _, none => false
  | some left, some right => decide (left ≤ right)

/-- Those of the named bindings that a machine holds.  Bindings that are gone are taken out of
the index. -/
def checkBindings (machine : ObjectKey) : (names : List String) → Attempt (List ServerBinding)
  | [] => pure []
  | name :: rest => do
      match ← Pass.call (.getServerBinding name) with
      | .ok binding =>
          let others ← checkBindings machine rest
          return if binding.isHeldBy machine then binding :: others else others
      | .error (.notFound _) =>
          Pass.learn (.bindingGone name)
          checkBindings machine rest
      | .error error => throw (.store error)

/-- The bindings of a machine among all bindings of the store. -/
def listBindings (machine : ObjectKey) : Attempt (List ServerBinding) := do
  let found := bindingsOf machine (← Attempt.call .listServerBindings)
  Pass.learnAll (found.map .bindingSeen)
  return found

/-- The bindings that a machine holds, by name. -/
def heldBindings (machine : ObjectKey) : Attempt (List ServerBinding) := do
  let known ← checkBindings machine (← Pass.bindingsFor machine)
  let found ← if known.isEmpty then listBindings machine else pure known
  return found.mergeSort ServerBinding.inNameOrder

end BareMetal
