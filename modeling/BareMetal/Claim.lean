import BareMetal.Object.MetalMachine
import BareMetal.Object.ServerBinding

/-!
# Claims

The binding by which a machine holds a server.  It has the server's name, the machine's labels
and a full reference to the machine.  A machine that names its server itself, without a binding,
makes a claim too, and the binding for it carries the machine's class reference.
-/

namespace BareMetal

/-- The binding by which a machine holds a server picked from a class. -/
def claim (machine : MetalMachine) (server : String) (serverClass : Option Reference) :
    ServerBinding where
  metadata := { name := some server, labels := machine.metadata.labels }
  spec := { metalMachineRef := .toObject machine, serverClassRef := serverClass }

/-- The name of the server that a machine names itself. -/
def MetalMachine.namedServer? (machine : MetalMachine) : Option String :=
  machine.spec.serverRef.map Reference.name

/-- The binding by which a machine holds the server that it names itself. -/
def MetalMachine.ownClaim? (machine : MetalMachine) : Option ServerBinding :=
  machine.namedServer?.map fun server => claim machine server machine.spec.serverClassRef

end BareMetal
