import BareMetal.Links
import BareMetal.Object.MetalMachine
import BareMetal.Object.ServerBinding

/-!
# The reverse index

For each binding seen, the machine it names, and for each machine seen, the server it names.  The
links are kept both ways, so that one look-up tells which bindings name a machine and which machines
name a server.  The index is a memory of what was seen and may lag behind the store.
-/

namespace BareMetal

/-- What was last seen of bindings and machines. -/
structure Index where
  /-- The machine that each binding names. -/
  holders : Links String ObjectKey := Links.empty
  /-- The server that each machine names; machines that name none are left out. -/
  targets : Links ObjectKey String := Links.empty
  deriving DecidableEq

namespace Index

/-- Notes a binding that was created or changed. -/
def applyBinding (index : Index) (binding : ServerBinding) : Index :=
  { index with holders := index.holders.link binding.anyName binding.holder }

/-- Forgets a binding. -/
def removeBinding (index : Index) (name : String) : Index :=
  { index with holders := index.holders.unlink name }

/-- Notes a machine that was created or changed. -/
def applyMachine (index : Index) (machine : MetalMachine) : Index :=
  match machine.spec.serverRef with
  | none => { index with targets := index.targets.unlink machine.key }
  | some reference => { index with targets := index.targets.link machine.key reference.name }

/-- Forgets a machine. -/
def removeMachine (index : Index) (key : ObjectKey) : Index :=
  { index with targets := index.targets.unlink key }

/-- Forgets all bindings and notes those of a list. -/
def replaceBindings (index : Index) (bindings : List ServerBinding) : Index :=
  bindings.foldl applyBinding { index with holders := Links.empty }

/-- Forgets all machines and notes those of a list. -/
def replaceMachines (index : Index) (machines : List MetalMachine) : Index :=
  machines.foldl applyMachine { index with targets := Links.empty }

/-- The names of the bindings that name a machine, ascending. -/
def bindingsFor (index : Index) (machine : ObjectKey) : List String :=
  index.holders.keysOf machine

/-- The keys of the machines that name a server, ascending. -/
def machinesFor (index : Index) (server : String) : List ObjectKey :=
  index.targets.keysOf server

/-- A change of the index. -/
inductive Event where
  /-- A binding was created or changed. -/
  | bindingSeen (binding : ServerBinding)
  /-- A binding is gone. -/
  | bindingGone (name : String)
  /-- A machine was created or changed. -/
  | machineSeen (machine : MetalMachine)
  /-- A machine is gone. -/
  | machineGone (key : ObjectKey)
  /-- These are all bindings. -/
  | bindingsListed (bindings : List ServerBinding)
  /-- These are all machines. -/
  | machinesListed (machines : List MetalMachine)

/-- The index after a change. -/
def learn (index : Index) : Event → Index
  | .bindingSeen binding => index.applyBinding binding
  | .bindingGone name => index.removeBinding name
  | .machineSeen machine => index.applyMachine machine
  | .machineGone key => index.removeMachine key
  | .bindingsListed bindings => index.replaceBindings bindings
  | .machinesListed machines => index.replaceMachines machines

end Index

end BareMetal
