import BareMetal.Pass.Basic

/-!
# Commits

A pass works on a copy of its object.  However the pass ends, the changes of the copy are written
back: first what the store guards by version, then the status.  A failed pass reports its own
error, and an error of the commit only shows if the pass succeeded.
-/

namespace BareMetal

/-- Whether the part of a machine changed that is written under the guard of its version. -/
def MetalMachine.bodyChanged (before after : MetalMachine) : Bool :=
  before.metadata.finalizers != after.metadata.finalizers || before.spec != after.spec

/-- Writes a machine's status if it changed.  It need not be there any more if it may have gone
with its finalizer. -/
def commitMachineStatus (before after : MetalMachine) : Pass (Except StoreError Unit) := do
  if before.status = after.status then return .ok ()
  match ← Pass.call (.updateMetalMachineStatus after.key after.currentStatus) with
  | .error (.notFound what) =>
      return if after.isDeleting && !after.hasFinalizer then .ok () else .error (.notFound what)
  | reply => return reply

/-- Writes what changed of a machine. -/
def commitMachine (before after : MetalMachine) : Pass (Except StoreError Unit) := do
  if before.bodyChanged after then
    match ← Pass.call (.updateMetalMachine after) with
    | .error error => return .error error
    | .ok _ => commitMachineStatus before after
  else commitMachineStatus before after

/-- Writes the status of a binding if it changed. -/
def commitBinding (before after : ServerBinding) : Pass (Except StoreError Unit) := do
  if before.status = after.status then return .ok ()
  Pass.call (.updateServerBindingStatus after.anyName (after.status.getD {}))

/-- The result of a pass together with that of its commit. -/
def settled {α : Type} (result : Except PassError α) (committed : Except StoreError Unit) :
    Except PassError α :=
  match result, committed with
  | .error error, _ => .error error
  | .ok _, .error error => .error (.store error)
  | .ok value, .ok _ => .ok value

/-- Ends a pass over a machine: commits the copy and settles the result. -/
def finishMachine {α : Type} (before after : MetalMachine) (result : Except PassError α) :
    Pass (Except PassError α) := do
  return settled result (← commitMachine before after)

/-- Ends a pass over a binding: commits the copy and settles the result. -/
def finishBinding {α : Type} (before after : ServerBinding) (result : Except PassError α) :
    Pass (Except PassError α) := do
  return settled result (← commitBinding before after)

end BareMetal
