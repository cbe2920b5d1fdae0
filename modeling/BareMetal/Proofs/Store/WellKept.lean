import BareMetal.Proofs.Store.Writes
import Std.Data.String.ToNat

/-!
# How a store in memory comes about

A store in memory starts empty and changes by its operations only.  Whatever they were, every
object lies under its own name or key, and every metal machine carries a version number that was
given out, so that a machine read once and found again with the same version did not change.
-/

namespace BareMetal.Store

/-- The stores that the operations of a store in memory lead to. -/
inductive Arises : Store → Prop
  /-- The empty store. -/
  | empty : Arises {}
  /-- A server is put in. -/
  | addServer {store : Store} (arises : Arises store) (server : Server) :
      Arises (store.addServer server)
  /-- A server is taken out. -/
  | removeServer {store : Store} (arises : Arises store) (name : String) :
      Arises (store.removeServer name)
  /-- A class is put in. -/
  | addServerClass {store : Store} (arises : Arises store) (serverClass : ServerClass) :
      Arises (store.addServerClass serverClass)
  /-- A binding is put in. -/
  | addServerBinding {store : Store} (arises : Arises store) (binding : ServerBinding) :
      Arises (store.addServerBinding binding)
  /-- A metal machine is put in. -/
  | addMetalMachine {store : Store} (arises : Arises store) (machine : MetalMachine) :
      Arises (store.addMetalMachine machine)
  /-- An owner machine is put in. -/
  | addMachine {store : Store} (arises : Arises store) (machine : Machine) :
      Arises (store.addMachine machine)
  /-- A cluster is put in. -/
  | addCluster {store : Store} (arises : Arises store) (cluster : Cluster) :
      Arises (store.addCluster cluster)
  /-- Creating bindings is refused from now on. -/
  | failBindingCreates {store : Store} (arises : Arises store) (message : String) :
      Arises (store.failBindingCreates message)
  /-- A call is made. -/
  | perform {store : Store} (arises : Arises store) (call : StoreCall) :
      Arises (store.perform call).2

/-- A version that was given out already. -/
def Issued (store : Store) (version : Option String) : Prop :=
  ∃ number ≤ store.version, version = some (toString number)

theorem Issued.of_le {before after : Store} {version : Option String}
    (issued : before.Issued version) (ascends : before.version ≤ after.version) :
    after.Issued version := by
  obtain ⟨number, bound, same⟩ := issued
  exact ⟨number, Nat.le_trans bound ascends, same⟩

/-- The version of the next write was not given out yet. -/
theorem not_issued_nextVersion (store : Store) : ¬store.Issued (some store.nextVersion) := by
  rintro ⟨number, bound, same⟩
  have same : toString (store.version + 1) = toString number := Option.some.inj same
  have : store.version + 1 = number := Nat.repr_injective same
  omega

/-- Bindings and metal machines lie under their own names and keys, and machines carry versions
that were given out. -/
structure WellKept (store : Store) : Prop where
  /-- Bindings lie under their names. -/
  binding_name : ∀ name binding, store.serverBindings.get? name = some binding →
    binding.metadata.name.getD "" = name
  /-- Machines lie under their keys. -/
  machine_key : ∀ key machine, store.metalMachines.get? key = some machine → machine.key = key
  /-- Machines carry versions. -/
  machine_version : ∀ key machine, store.metalMachines.get? key = some machine →
    store.Issued machine.metadata.resourceVersion

section

variable {store : Store}

/-- What leaves all claims alone keeps the store in order. -/
theorem WellKept.of_leavesClaims {after : Store} (kept : store.WellKept)
    (leaves : LeavesClaims store after) : after.WellKept where
  binding_name name binding found := kept.binding_name name binding (leaves.serverBindings ▸ found)
  machine_key key machine found := kept.machine_key key machine (leaves.metalMachines ▸ found)
  machine_version key machine found :=
    (kept.machine_version key machine (leaves.metalMachines ▸ found)).of_le leaves.version

/-- A write of a binding under its name keeps the store in order. -/
theorem WellKept.insert_binding {after : Store} (kept : store.WellKept) {name : String}
    (binding : ServerBinding) (named : binding.metadata.name.getD "" = name)
    (serverBindings : after.serverBindings = store.serverBindings.insert name binding)
    (metalMachines : after.metalMachines = store.metalMachines)
    (version : store.version ≤ after.version) : after.WellKept where
  binding_name other present found := by
    rw [serverBindings, Dict.get?_insert_eq_some] at found
    rcases found with ⟨rfl, rfl⟩ | ⟨_, found⟩
    · exact named
    · exact kept.binding_name other present found
  machine_key key machine found := kept.machine_key key machine (metalMachines ▸ found)
  machine_version key machine found :=
    (kept.machine_version key machine (metalMachines ▸ found)).of_le version

/-- A write of a machine under its key with a new version keeps the store in order. -/
theorem WellKept.insert_machine {after : Store} (kept : store.WellKept) {key : ObjectKey}
    (machine : MetalMachine) (keyed : machine.key = key)
    (stamped : machine.metadata.resourceVersion = some store.nextVersion)
    (serverBindings : after.serverBindings = store.serverBindings)
    (metalMachines : after.metalMachines = store.metalMachines.insert key machine)
    (version : after.version = store.version + 1) : after.WellKept where
  binding_name name binding found := kept.binding_name name binding (serverBindings ▸ found)
  machine_key other present found := by
    rw [metalMachines, Dict.get?_insert_eq_some] at found
    rcases found with ⟨rfl, rfl⟩ | ⟨_, found⟩
    · exact keyed
    · exact kept.machine_key other present found
  machine_version other present found := by
    rw [metalMachines, Dict.get?_insert_eq_some] at found
    rcases found with ⟨_, rfl⟩ | ⟨_, found⟩
    · exact ⟨store.version + 1, Nat.le_of_eq version.symm, stamped⟩
    · exact (kept.machine_version other present found).of_le (version ▸ Nat.le_succ _)

theorem WellKept.withCreated (kept : store.WellKept) (binding : ServerBinding) :
    (store.withCreated binding).WellKept :=
  kept.insert_binding (store.createdBinding binding) rfl rfl rfl (Nat.le_succ _)

theorem WellKept.withMachine (kept : store.WellKept) {key : ObjectKey} (machine : MetalMachine)
    (keyed : machine.key = key)
    (stamped : machine.metadata.resourceVersion = some store.nextVersion) :
    (store.withMachine key machine).WellKept :=
  kept.insert_machine machine keyed stamped rfl rfl rfl

theorem WellKept.withoutMachine (kept : store.WellKept) (key : ObjectKey) :
    (store.withoutMachine key).WellKept where
  binding_name := kept.binding_name
  machine_key other machine found :=
    kept.machine_key other machine (Dict.get?_erase_eq_some.1 found).2
  machine_version other machine found :=
    (kept.machine_version other machine (Dict.get?_erase_eq_some.1 found).2).of_le (Nat.le_succ _)

theorem WellKept.addMetalMachine (kept : store.WellKept) (machine : MetalMachine) :
    (store.addMetalMachine machine).WellKept := by
  unfold Store.addMetalMachine
  dsimp only
  split
  · exact kept.insert_machine _ rfl rfl rfl rfl rfl
  · exact kept.insert_machine _ rfl rfl rfl rfl rfl

theorem WellKept.of_creation {binding : ServerBinding} {reply : Except StoreError ServerBinding}
    {after : Store} (kept : store.WellKept) (creation : store.Creation binding reply after) :
    after.WellKept := by
  cases creation with
  | refused | taken => exact kept
  | created free => exact kept.withCreated binding

theorem WellKept.of_bindingStatusChange {name : String} {status : ServerBindingStatus}
    {reply : Except StoreError Unit} {after : Store} (kept : store.WellKept)
    (change : store.BindingStatusChange name status reply after) : after.WellKept := by
  cases change with
  | gone => exact kept
  | changed found =>
      have named := kept.binding_name name _ found
      exact kept.insert_binding (store.bindingWithStatus _ status) named rfl rfl
        (Nat.le_succ _)

theorem WellKept.of_machineChange {machine : MetalMachine}
    {reply : Except StoreError MetalMachine} {after : Store} (kept : store.WellKept)
    (change : store.MachineChange machine reply after) : after.WellKept := by
  cases change with
  | gone | stale => exact kept
  | removed => exact kept.withoutMachine machine.key
  | written found =>
      have keyed := kept.machine_key machine.key _ found
      exact kept.withMachine (store.updatedMachine _ machine) keyed rfl

theorem WellKept.of_machineStatusChange {key : ObjectKey} {status : MetalMachineStatus}
    {reply : Except StoreError Unit} {after : Store} (kept : store.WellKept)
    (change : store.MachineStatusChange key status reply after) : after.WellKept := by
  cases change with
  | gone => exact kept
  | changed found =>
      have keyed := kept.machine_key key _ found
      exact kept.withMachine (store.machineWithStatus _ status) keyed rfl

/-- Every call keeps the store in order. -/
theorem WellKept.perform (kept : store.WellKept) (call : StoreCall) :
    (store.perform call).2.WellKept := by
  cases call with
  | createServerClass serverClass =>
      exact kept.of_leavesClaims (leavesClaims_createServerClass store serverClass)
  | updateServerClassSpec name spec =>
      exact kept.of_leavesClaims (leavesClaims_changeServerClass store name _)
  | updateServerClassStatus name status =>
      exact kept.of_leavesClaims (leavesClaims_changeServerClass store name _)
  | createServerBinding binding => exact kept.of_creation (store.creation binding)
  | deleteServerBinding name =>
      exact ⟨fun other binding found =>
        kept.binding_name other binding (Dict.get?_erase_eq_some.1 found).2,
        kept.machine_key, kept.machine_version⟩
  | updateServerBindingStatus name status =>
      exact kept.of_bindingStatusChange (store.bindingStatusChange name status)
  | updateMetalMachine machine => exact kept.of_machineChange (store.machineChange machine)
  | updateMetalMachineStatus key status =>
      exact kept.of_machineStatusChange (store.machineStatusChange key status)
  | _ => exact kept

/-- However a store came about, it is in order. -/
theorem Arises.wellKept (arises : store.Arises) : store.WellKept := by
  induction arises with
  | empty =>
      exact ⟨fun _ _ found => (nomatch found), fun _ _ found => (nomatch found),
        fun _ _ found => (nomatch found)⟩
  | addServer _ server ih => exact ih.of_leavesClaims ⟨rfl, rfl, Nat.le_succ _⟩
  | removeServer _ name ih => exact ih.of_leavesClaims ⟨rfl, rfl, Nat.le_refl _⟩
  | addServerClass _ serverClass ih => exact ih.of_leavesClaims ⟨rfl, rfl, Nat.le_succ _⟩
  | addServerBinding _ binding ih => exact ih.insert_binding _ rfl rfl rfl (Nat.le_succ _)
  | addMetalMachine _ machine ih => exact ih.addMetalMachine machine
  | addMachine _ machine ih => exact ih.of_leavesClaims ⟨rfl, rfl, Nat.le_refl _⟩
  | addCluster _ cluster ih => exact ih.of_leavesClaims ⟨rfl, rfl, Nat.le_refl _⟩
  | failBindingCreates _ message ih => exact ih.of_leavesClaims ⟨rfl, rfl, Nat.le_refl _⟩
  | perform _ call ih => exact ih.perform call

/-- No call touches a server. -/
theorem perform_servers (store : Store) (call : StoreCall) :
    (store.perform call).2.servers = store.servers := by
  cases call with
  | createServerClass serverClass =>
      unfold Store.perform Store.createServerClass
      dsimp only
      split <;> rfl
  | updateServerClassSpec | updateServerClassStatus =>
      unfold Store.perform Store.changeServerClass
      dsimp only
      split <;> rfl
  | createServerBinding binding =>
      have creation := store.creation binding
      change (store.createServerBinding binding).2.servers = store.servers
      cases creation_eq : store.createServerBinding binding with
      | mk reply after =>
          rw [creation_eq] at creation
          cases creation <;> rfl
  | updateServerBindingStatus name status =>
      unfold Store.perform Store.updateServerBindingStatus
      dsimp only
      split <;> rfl
  | updateMetalMachine machine =>
      change (store.updateMetalMachine machine).2.servers = store.servers
      rw [updateMetalMachine_eq]
      split
      · rfl
      · split <;> rfl
  | updateMetalMachineStatus key status =>
      unfold Store.perform Store.updateMetalMachineStatus
      dsimp only
      split <;> rfl
  | _ => rfl

/-- Servers lie under their names. -/
theorem Arises.server_name (arises : store.Arises) :
    ∀ name server, store.servers.get? name = some server →
      server.metadata.name.getD "" = name := by
  induction arises with
  | empty => exact fun _ _ found => nomatch found
  | addServer _ server ih =>
      intro name present found
      rcases Dict.get?_insert_eq_some.1 found with ⟨rfl, rfl⟩ | ⟨_, found⟩
      · rfl
      · exact ih name present found
  | removeServer _ name ih =>
      exact fun other server found => ih other server (Dict.get?_erase_eq_some.1 found).2
  | @addMetalMachine store _ machine ih =>
      have same : (store.addMetalMachine machine).servers = store.servers := by
        unfold Store.addMetalMachine
        dsimp only
      rwa [same]
  | @perform store _ call ih => rwa [store.perform_servers call]
  | _ => assumption

end

end BareMetal.Store
