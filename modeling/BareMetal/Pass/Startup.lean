import BareMetal.Pass.Basic

/-!
# Starting up

Before an allocator looks at single objects it makes sure that the class `any` is there and fills
its index from all bindings and all machines.
-/

namespace BareMetal

/-- The class `any` as it is created. -/
def ServerClass.any : ServerClass where
  metadata := { name := some ServerClass.anyClass }
  spec := {}

/-- Creates the class `any` unless it is there. -/
def ensureAny : Attempt Unit := do
  match ← Pass.call (.createServerClass .any) with
  | .ok _ => return ()
  | .error (.alreadyExists _) => return ()
  | .error error => throw (.store error)

/-- Makes an allocator ready to look at single objects. -/
def startup : Attempt Unit := do
  ensureAny
  let bindings ← Attempt.call .listServerBindings
  let machines ← Attempt.call .listMetalMachines
  Pass.learn (.bindingsListed bindings)
  Pass.learn (.machinesListed machines)

end BareMetal
