import BareMetal.Claim
import BareMetal.Pass.Basic

/-!
# Passes over servers

A server that a machine names but that has no binding gets its binding back: from the first machine
that names the server and is not marked for deletion.
-/

namespace BareMetal

/-- Those of the machines of the given keys that name a server.  What the index has wrong about
the others is put right. -/
def checkMachines (server : String) : (keys : List ObjectKey) → Attempt (List MetalMachine)
  | [] => pure []
  | key :: rest => do
      match ← Pass.call (.getMetalMachine key) with
      | .ok machine =>
          if machine.namesServer server then return machine :: (← checkMachines server rest)
          else
            Pass.learn (.machineSeen machine)
            checkMachines server rest
      | .error (.notFound _) =>
          Pass.learn (.machineGone key)
          checkMachines server rest
      | .error error => throw (.store error)

/-- The machines that name a server among all machines of the store. -/
def listMachines (server : String) : Attempt (List MetalMachine) := do
  let found := machinesNaming server (← Attempt.call .listMetalMachines)
  Pass.learnAll (found.map .machineSeen)
  return found

/-- Whether a machine may stand before another: by key. -/
def MetalMachine.inKeyOrder (left right : MetalMachine) : Bool :=
  (compare left.key right.key).isLE

/-- The machines that name a server, by key. -/
def namingMachines (server : String) : Attempt (List MetalMachine) := do
  let known ← checkMachines server (← Pass.machinesFor server)
  let found ← if known.isEmpty then listMachines server else pure known
  return found.mergeSort MetalMachine.inKeyOrder

/-- Creates the claim of the first machine that is not marked for deletion; gives its key unless
a binding was there first. -/
def healFrom : (machines : List MetalMachine) → Attempt (Option ObjectKey)
  | [] => return none
  | machine :: rest => do
      if machine.isDeleting then healFrom rest
      else
        match machine.ownClaim? with
        | none => healFrom rest
        | some binding =>
            match ← Pass.call (.createServerBinding binding) with
            | .ok created =>
                Pass.learn (.bindingSeen created)
                return some machine.key
            | .error (.alreadyExists _) => return none
            | .error error => throw (.store error)

/-- Recreates the missing binding of a server; gives the key of the machine it was created
for. -/
def healBinding (server : String) : Attempt (Option ObjectKey) := do
  healFrom (← namingMachines server)

/-- A pass over the server of a name. -/
def serverPass (name : String) : Pass (Except PassError Outcome) := do
  match ← Pass.call (.getServerBinding name) with
  | .ok _ => return .ok .done
  | .error (.notFound _) =>
      match ← (healBinding name).run with
      | .error error => return .error error
      | .ok _ => return .ok .done
  | .error error => return .error (.store error)

end BareMetal
