import BareMetal.Claim
import BareMetal.Pass.Holding
import BareMetal.Qualification

/-!
# Allocation

How a machine comes to hold a server.  A machine that names a server claims that one.  A machine
that names a class keeps the server it holds already, or else claims the first of the class's
free servers for which no binding is there yet.  Creating the binding is the claim: of several
allocators that try it the store lets one succeed, and the others go on to the next server.
-/

namespace BareMetal

/-- The servers of the given names that are there. -/
def presentServers : (names : List String) → Attempt (List Server)
  | [] => pure []
  | name :: rest => do
      match ← Pass.call (.getServer name) with
      | .ok server => return server :: (← presentServers rest)
      | .error (.notFound _) => presentServers rest
      | .error error => throw (.store error)

/-- Claims the first of several servers that is free, clean and without a binding. -/
def claimFirst (machine : MetalMachine) (serverClass : Reference) :
    (candidates : List Server) → Attempt (Option String)
  | [] => return none
  | server :: rest => do
      if server.isInUse || !server.isClean then claimFirst machine serverClass rest
      else
        match ← Pass.call (.createServerBinding (claim machine server.anyName serverClass)) with
        | .ok created =>
            Pass.learn (.bindingSeen created)
            Pass.count .allocations
            return some server.anyName
        | .error (.alreadyExists _) =>
            Pass.count .claimConflicts
            claimFirst machine serverClass rest
        | .error error => throw (.store error)

/-- Claims a server of the class that a machine names. -/
def claimFromClass (machine : MetalMachine) (className : String) : Attempt (Option String) := do
  let serverClass ← Attempt.call (.getServerClass className)
  let servers ← presentServers serverClass.availableServers
  match qualifiedServers serverClass.spec servers with
  | .error fault => throw (.malformedSelector fault)
  | .ok candidates => claimFirst machine (.toObject serverClass) candidates

/-- The server that a machine which names a class holds or can claim, if there is one. -/
def serverFromClass (machine : MetalMachine) : Attempt (Option String) := do
  match ← heldBindings machine.key with
  | binding :: _ => return some binding.anyName
  | [] =>
      match machine.spec.serverClassRef with
      | none => return none
      | some serverClass => claimFromClass machine serverClass.name

/-- Claims the server that a machine names and that no binding is there for. -/
def claimNamed (machine : MetalMachine) (server : String) : Attempt (Option WaitReason) := do
  let found ← Attempt.call (.getServer server)
  if !found.isAccepted then throw (.serverNotAccepted server)
  match machine.ownClaim? with
  | none => return none
  | some binding =>
      match ← Pass.call (.createServerBinding binding) with
      | .ok created =>
          Pass.learn (.bindingSeen created)
          return some .bindingNotVisible
      | .error (.alreadyExists _) => return some .bindingNotVisible
      | .error error => throw (.store error)

/-- Makes sure that a machine holds the server it names.  There is something to wait for if the
binding was missing. -/
def ensureNamed (machine : MetalMachine) (server : String) : Attempt (Option WaitReason) := do
  match ← Pass.call (.getServerBinding server) with
  | .ok binding =>
      if binding.isHeldBy machine.key then return none
      else throw (.serverAlreadyClaimed server binding.holder)
  | .error (.notFound _) => claimNamed machine server
  | .error error => throw (.store error)

end BareMetal
