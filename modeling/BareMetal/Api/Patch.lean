import BareMetal.Object.MetalMachine
import BareMetal.Object.ServerBinding
import BareMetal.Object.ServerClass

/-!
# Patches

A merge patch leaves out what it does not change, so a patch has to name every field it owns: an
unset field is sent as `null` and an empty list as an empty list.
-/

namespace BareMetal.Api

/-- A list, also if it is empty. -/
def fullList {α : Type} (write : α → Json) (items : List α) : Json := .arr (items.map write)

/-- The patch that gives a class a filter. -/
def classSpecPatch (spec : ServerClassSpec) : Json :=
  .obj [("spec", .obj [
    ("selector", Json.ofOption Selector.write spec.selector),
    ("qualifiers", .obj [
      ("cpu", fullList CpuInformation.write spec.qualifiers.cpu),
      ("systemInformation",
        fullList SystemInformation.write spec.qualifiers.systemInformation),
      ("labelSelectors", fullList (Json.ofDict .str) spec.qualifiers.labelSelectors)]),
    ("environmentRef", Json.ofOption Reference.write spec.environmentRef)])]

/-- The patch that gives a class a status. -/
def classStatusPatch (status : ServerClassStatus) : Json := .obj [("status", status.write)]

/-- The patch that gives a binding a status. -/
def bindingStatusPatch (status : ServerBindingStatus) : Json :=
  .obj [("status", .obj [
    ("ready", .bool status.ready),
    ("conditions", fullList Condition.write status.conditions)])]

/-- The patch that gives a machine its finalizers and its request.  It names the version of the
machine that it was made for. -/
def machinePatch (machine : MetalMachine) : Json :=
  .obj [
    ("metadata", .obj [
      ("finalizers", .strings (machine.metadata.finalizers.getD [])),
      ("resourceVersion", Json.ofOption .str machine.metadata.resourceVersion)]),
    ("spec", .obj [
      ("providerID", Json.ofOption .str machine.spec.providerId),
      ("serverRef", Json.ofOption Reference.write machine.spec.serverRef),
      ("serverClassRef", Json.ofOption Reference.write machine.spec.serverClassRef)])]

/-- The patch that gives a machine a status. -/
def machineStatusPatch (status : MetalMachineStatus) : Json :=
  .obj [("status", .obj [
    ("ready", .bool status.ready),
    ("addresses", fullList MachineAddress.write status.addresses),
    ("conditions", fullList Condition.write status.conditions),
    ("failureReason", Json.ofOption .str status.failureReason),
    ("failureMessage", Json.ofOption .str status.failureMessage)])]

end BareMetal.Api
