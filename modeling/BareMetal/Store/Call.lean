import BareMetal.Object.MetalMachine
import BareMetal.Object.Owner
import BareMetal.Object.ServerBinding
import BareMetal.Object.ServerClass
import BareMetal.Store.Error

/-!
# Store calls

What can be asked of the store of objects, and what each call gives back.  Status is written apart
from the rest; the finalizers and the request of a machine are written together, and only if the
machine did not change since it was read.
-/

namespace BareMetal

/-- What can be asked of the store. -/
inductive StoreCall where
  /-- One server. -/
  | getServer (name : String)
  /-- All servers. -/
  | listServers
  /-- One server class. -/
  | getServerClass (name : String)
  /-- All server classes. -/
  | listServerClasses
  /-- Adds a server class. -/
  | createServerClass (serverClass : ServerClass)
  /-- Changes the filter of a server class. -/
  | updateServerClassSpec (name : String) (spec : ServerClassSpec)
  /-- Changes the status of a server class. -/
  | updateServerClassStatus (name : String) (status : ServerClassStatus)
  /-- One binding. -/
  | getServerBinding (name : String)
  /-- All bindings. -/
  | listServerBindings
  /-- Adds a binding. -/
  | createServerBinding (binding : ServerBinding)
  /-- Removes a binding, if it is there. -/
  | deleteServerBinding (name : String)
  /-- Changes the status of a binding. -/
  | updateServerBindingStatus (name : String) (status : ServerBindingStatus)
  /-- One metal machine. -/
  | getMetalMachine (key : ObjectKey)
  /-- All metal machines. -/
  | listMetalMachines
  /-- Changes the finalizers and the request of a metal machine. -/
  | updateMetalMachine (machine : MetalMachine)
  /-- Changes the status of a metal machine. -/
  | updateMetalMachineStatus (key : ObjectKey) (status : MetalMachineStatus)
  /-- One owner machine. -/
  | getMachine (key : ObjectKey)
  /-- One cluster. -/
  | getCluster (key : ObjectKey)

namespace StoreCall

/-- What a call gives when it succeeds. -/
@[reducible] def Result : StoreCall → Type
  | getServer _ => Server
  | listServers => List Server
  | getServerClass _ => ServerClass
  | listServerClasses => List ServerClass
  | createServerClass _ => ServerClass
  | updateServerClassSpec _ _ => Unit
  | updateServerClassStatus _ _ => Unit
  | getServerBinding _ => ServerBinding
  | listServerBindings => List ServerBinding
  | createServerBinding _ => ServerBinding
  | deleteServerBinding _ => Unit
  | updateServerBindingStatus _ _ => Unit
  | getMetalMachine _ => MetalMachine
  | listMetalMachines => List MetalMachine
  | updateMetalMachine _ => MetalMachine
  | updateMetalMachineStatus _ _ => Unit
  | getMachine _ => Machine
  | getCluster _ => Cluster

/-- What a call gives. -/
@[reducible] def Reply (call : StoreCall) : Type := Except StoreError call.Result

/-- The JSON form of what a call gives; `null` if it gives nothing. -/
def writeResult : (call : StoreCall) → call.Result → Json
  | getServer _, server => server.write
  | listServers, servers => .arr (servers.map Server.write)
  | getServerClass _, serverClass => serverClass.write
  | listServerClasses, classes => .arr (classes.map ServerClass.write)
  | createServerClass _, serverClass => serverClass.write
  | updateServerClassSpec _ _, _ => .null
  | updateServerClassStatus _ _, _ => .null
  | getServerBinding _, binding => binding.write
  | listServerBindings, bindings => .arr (bindings.map ServerBinding.write)
  | createServerBinding _, binding => binding.write
  | deleteServerBinding _, _ => .null
  | updateServerBindingStatus _ _, _ => .null
  | getMetalMachine _, machine => machine.write
  | listMetalMachines, machines => .arr (machines.map MetalMachine.write)
  | updateMetalMachine _, machine => machine.write
  | updateMetalMachineStatus _ _, _ => .null
  | getMachine _, machine => machine.write
  | getCluster _, cluster => cluster.write

end StoreCall

/-- The bindings of a list that a machine holds. -/
def bindingsOf (machine : ObjectKey) (bindings : List ServerBinding) : List ServerBinding :=
  bindings.filter fun binding => binding.isHeldBy machine

/-- The machines of a list that name a server. -/
def machinesNaming (server : String) (machines : List MetalMachine) : List MetalMachine :=
  machines.filter fun machine => machine.namesServer server

end BareMetal
