import BareMetal.Pass.Basic

/-!
# Names of calls

In a rehearsal the calls of an allocator to the store and to the workload clusters are recorded,
and can be interfered with, by name: the method, and the object that the call is about.
-/

namespace BareMetal

/-- The name of a recorded call. -/
structure CallName where
  /-- What is called. -/
  method : String
  /-- What the call is about, empty if about nothing in particular. -/
  target : String := ""
  deriving DecidableEq

namespace CallName

/-- The recorded form of a call: the method, and the target behind a space unless it is empty. -/
def display (name : CallName) : String :=
  if name.target.isEmpty then name.method else name.method ++ " " ++ name.target

/-- The name of a call to the store. -/
def ofStore : StoreCall → CallName
  | .getServer name => ⟨"get_server", name⟩
  | .listServers => ⟨"list_servers", ""⟩
  | .getServerClass name => ⟨"get_server_class", name⟩
  | .listServerClasses => ⟨"list_server_classes", ""⟩
  | .createServerClass serverClass =>
      ⟨"create_server_class", (Resource.key serverClass).display⟩
  | .updateServerClassSpec name _ => ⟨"update_server_class_spec", name⟩
  | .updateServerClassStatus name _ => ⟨"update_server_class_status", name⟩
  | .getServerBinding name => ⟨"get_server_binding", name⟩
  | .listServerBindings => ⟨"list_server_bindings", ""⟩
  | .createServerBinding binding => ⟨"create_server_binding", (Resource.key binding).display⟩
  | .deleteServerBinding name => ⟨"delete_server_binding", name⟩
  | .updateServerBindingStatus name _ => ⟨"update_server_binding_status", name⟩
  | .getMetalMachine key => ⟨"get_metal_machine", key.display⟩
  | .listMetalMachines => ⟨"list_metal_machines", ""⟩
  | .updateMetalMachine machine => ⟨"update_metal_machine", machine.key.display⟩
  | .updateMetalMachineStatus key _ => ⟨"update_metal_machine_status", key.display⟩
  | .getMachine key => ⟨"get_machine", key.display⟩
  | .getCluster key => ⟨"get_cluster", key.display⟩

/-- The name of setting a node's provider ID. -/
def ofStamp (cluster : ObjectKey) (uuid providerId : String) : CallName :=
  ⟨"set_node_provider_id", cluster.display ++ " " ++ uuid ++ " " ++ providerId⟩

end CallName

end BareMetal
