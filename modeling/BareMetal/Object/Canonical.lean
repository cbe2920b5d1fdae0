import BareMetal.Object.MetalMachine
import BareMetal.Object.Owner
import BareMetal.Object.ServerBinding
import BareMetal.Object.ServerClass

/-!
# Canonical forms

What is left of a JSON value when it is read as a type and written again: unknown fields are gone,
defaults are filled in, and everything stands at its place.
-/

namespace BareMetal

/-- The canonical form of a value that is read and written in the given ways. -/
def normalForm {α : Type} (read : Json → Option α) (write : α → Json) (json : Json) :
    Option Json :=
  (read json).map write

/-- The canonical form of values of the type of a name, if there is such a type. -/
def canonical? : (type : String) → Option (Json → Option Json)
  | "Server" => some (normalForm Server.read? Server.write)
  | "ServerClass" => some (normalForm ServerClass.read? ServerClass.write)
  | "ServerBinding" => some (normalForm ServerBinding.read? ServerBinding.write)
  | "MetalMachine" => some (normalForm MetalMachine.read? MetalMachine.write)
  | "Machine" => some (normalForm Machine.read? Machine.write)
  | "Cluster" => some (normalForm Cluster.read? Cluster.write)
  | "Condition" => some (normalForm Condition.read? Condition.write)
  | "ResourceReference" => some (normalForm Reference.read? Reference.write)
  | "LabelSelector" => some (normalForm Selector.read? Selector.write)
  | "Qualifiers" => some (normalForm Qualifiers.read? Qualifiers.write)
  | "CPUInformation" => some (normalForm CpuInformation.read? CpuInformation.write)
  | "SystemInformation" => some (normalForm SystemInformation.read? SystemInformation.write)
  | "MachineAddress" => some (normalForm MachineAddress.read? MachineAddress.write)
  | "ServerSpec" => some (normalForm ServerSpec.read? ServerSpec.write)
  | "ServerStatus" => some (normalForm ServerStatus.read? ServerStatus.write)
  | "ServerClassSpec" => some (normalForm ServerClassSpec.read? ServerClassSpec.write)
  | "ServerClassStatus" => some (normalForm ServerClassStatus.read? ServerClassStatus.write)
  | "ServerBindingSpec" => some (normalForm ServerBindingSpec.read? ServerBindingSpec.write)
  | "ServerBindingStatus" => some (normalForm ServerBindingStatus.read? ServerBindingStatus.write)
  | "MetalMachineSpec" => some (normalForm MetalMachineSpec.read? MetalMachineSpec.write)
  | "MetalMachineStatus" => some (normalForm MetalMachineStatus.read? MetalMachineStatus.write)
  | "MachineSpec" => some (normalForm MachineSpec.read? MachineSpec.write)
  | "ClusterSpec" => some (normalForm ClusterSpec.read? ClusterSpec.write)
  | "ClusterStatus" => some (normalForm ClusterStatus.read? ClusterStatus.write)
  | _ => none

end BareMetal
