import BareMetal.Pass.Holding

/-!
# Release

A machine that is marked for deletion gives up its server: all bindings that it holds are deleted,
and once there are none, it lets go of the server it names and of its finalizer.
-/

namespace BareMetal

/-- The name of the server that a machine names, if it holds that server. -/
def heldNamedServer (machine : MetalMachine) : Attempt (List String) := do
  match machine.spec.serverRef with
  | none => return []
  | some reference =>
      match ← Pass.call (.getServerBinding reference.name) with
      | .ok binding => return if binding.isHeldBy machine.key then [reference.name] else []
      | .error (.notFound _) => return []
      | .error error => throw (.store error)

/-- Deletes bindings one after the other. -/
def deleteBindings : (names : List String) → Attempt Unit
  | [] => return ()
  | name :: rest => do
      Attempt.call (.deleteServerBinding name)
      Pass.learn (.bindingGone name)
      deleteBindings rest

/-- The names in ascending order, each once. -/
def sortedNames (names : List String) : List String :=
  (names.mergeSort fun left right => decide (left ≤ right)).eraseReps

/-- Deletes the bindings of a machine; tells whether there were any. -/
def deleteHeldBindings (machine : MetalMachine) : Attempt Bool := do
  let held := (← heldBindings machine.key).map ServerBinding.anyName
  let names := sortedNames (held ++ (← heldNamedServer machine))
  deleteBindings names
  return !names.isEmpty

/-- The machine after it gave up its server. -/
def MetalMachine.released (machine : MetalMachine) : MetalMachine :=
  { machine with spec.serverRef := none }.removeFinalizer

/-- Releases the server of a machine: the result, and the machine as it is to be written back. -/
def release (machine : MetalMachine) : Pass (Except PassError Outcome × MetalMachine) := do
  match ← (deleteHeldBindings machine).run with
  | .error error => return (.error error, machine)
  | .ok true => return (.ok (.requeue .bindingReleasing), machine)
  | .ok false => return (.ok .done, machine.released)

end BareMetal
