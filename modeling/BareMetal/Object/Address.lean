import BareMetal.Object.MetalMachine
import BareMetal.Object.Server
import BareMetal.Object.ServerBinding

/-!
# Which objects a change concerns

An object's address is its kind, its name and, for some kinds, its namespace.  A change of one
object calls for another look at the objects that it concerns: a binding concerns the machine and
the server it joins, a machine the server it names, and a server its binding.
-/

namespace BareMetal

/-- Where an object is found. -/
structure ObjectAddress where
  /-- The kind of the object. -/
  kind : Kind
  /-- The name of the object. -/
  name : String
  /-- The namespace of the object, if it has one. -/
  space : Option String := none
  deriving DecidableEq

namespace ObjectAddress

/-- The address of an object. -/
def ofObject {α : Type} [Resource α] (object : α) : ObjectAddress where
  kind := Resource.kind α
  name := Resource.anyName object
  space := (Resource.metadata object).space

/-- The key that an address gives, the namespace empty if it has none. -/
def key (address : ObjectAddress) : ObjectKey := ⟨address.space.getD "", address.name⟩

/-- The text of an address: kind, version and group with points between them, the name behind a
slash and the namespace, if there is one, behind another point. -/
def display (address : ObjectAddress) : String :=
  address.kind.name ++ "." ++ address.kind.version ++ "." ++ address.kind.group ++ "/" ++
    address.name ++ (address.space.map fun space => "." ++ space).getD ""

end ObjectAddress

/-- The machine that a binding names, if it names the machine's namespace. -/
def ServerBinding.concernedMachine? (binding : ServerBinding) : Option ObjectAddress :=
  binding.spec.metalMachineRef.space.map fun space =>
    { kind := MetalMachine.kind, name := binding.spec.metalMachineRef.name, space := some space }

/-- The server that a binding is named after. -/
def ServerBinding.concernedServer (binding : ServerBinding) : ObjectAddress :=
  { kind := Server.kind, name := binding.anyName }

/-- The server that a machine names. -/
def MetalMachine.concernedServer? (machine : MetalMachine) : Option ObjectAddress :=
  machine.spec.serverRef.map fun reference => { kind := Server.kind, name := reference.name }

/-- The binding that is named after a server. -/
def Server.concernedBinding (server : Server) : ObjectAddress :=
  { kind := ServerBinding.kind, name := server.anyName }

end BareMetal
