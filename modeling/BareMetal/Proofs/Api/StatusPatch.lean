import BareMetal.Proofs.Api.Sending
import BareMetal.Proofs.Json.MergePatch
import BareMetal.Proofs.Object.Written

/-!
# Patches of a status

A patch of a status names every field of it, each with a value that no older one is merged into.
Whatever the status was, it is read back as the one that was sent, and the rest of the object is
left alone.
-/

namespace BareMetal.Api

open Json Fields

/-- The patch gives an object a status in place of any that it had, and leaves its other members. -/
structure GivesStatus {σ : Type} (read : Json → Option σ) (status : σ)
    (members : List (String × Json)) (patch : Json) : Prop where
  /-- The other members stay as they are. -/
  others : dropMember "status" ((obj members).mergePatch patch).members =
    dropMember "status" members
  /-- There is one status, and it is the given one. -/
  own : ∃ json, values ((obj members).mergePatch patch).members "status" = [json] ∧
    read json = some status

/-- A change of the status is what the patch comes down to. -/
theorem givesStatus_of_changed {σ : Type} {read : Json → Option σ} {status : σ} {change : Json}
    {members : List (String × Json)}
    (becomes : ∀ target, ∃ json, changed? target change = some json ∧ read json = some status) :
    GivesStatus read status members (.obj [("status", change)]) := by
  obtain ⟨json, changed, back⟩ := becomes ((members.lookup "status").getD .null)
  have patched : ((obj members).mergePatch (.obj [("status", change)])).members =
      patchMembers members [("status", change)] := by
    simp [mergePatch, Json.members]
  refine ⟨?_, json, ?_, back⟩
  · rw [patched, dropMember_patchMembers_singleton]
  · rw [patched, values_patchMembers (by simp), List.lookup_cons_self]
    exact congrArg Option.toList changed

/-! ## Metal machines -/

/-- What a patch changes of the status of a machine. -/
def machineStatusChanges (status : MetalMachineStatus) : List (String × Json) := [
  ("ready", .bool status.ready),
  ("addresses", fullList MachineAddress.write status.addresses),
  ("conditions", fullList Condition.write status.conditions),
  ("failureReason", Json.ofOption .str status.failureReason),
  ("failureMessage", Json.ofOption .str status.failureMessage)]

/-- Every field of a machine's status is the new one. -/
theorem read?_machineStatusChanges {status : MetalMachineStatus}
    (dated : ∀ condition ∈ status.conditions, condition.IsDated)
    (members : List (String × Json)) :
    MetalMachineStatus.read? (.obj (patchMembers members (machineStatusChanges status))) =
      some status := by
  have once : ((machineStatusChanges status).map Prod.fst).Nodup := by
    simp [machineStatusChanges]
  have given : GivenOnce ["ready", "addresses", "conditions", "failureReason", "failureMessage"]
      (patchMembers members (machineStatusChanges status)) :=
    givenOnce_of_named once (by simp [machineStatusChanges])
  have ready : defaulted (patchMembers members (machineStatusChanges status)) "ready" false bool? =
      some status.ready :=
    defaulted_bool_replaced once status.ready (by simp [machineStatusChanges])
  have addresses : defaulted (patchMembers members (machineStatusChanges status)) "addresses" []
      (list? MachineAddress.read?) = some status.addresses :=
    defaulted_list_replaced once (by simp [machineStatusChanges, fullList])
      fun address _ => address.read?_write
  have conditions : defaulted (patchMembers members (machineStatusChanges status)) "conditions" []
      (list? Condition.read?) = some status.conditions :=
    defaulted_list_replaced once (by simp [machineStatusChanges, fullList])
      fun condition listed => Condition.read?_write (dated condition listed)
  have reason : optional (patchMembers members (machineStatusChanges status)) "failureReason" str? =
      some status.failureReason :=
    optional_str_replaced once status.failureReason (by simp [machineStatusChanges])
  have message : optional (patchMembers members (machineStatusChanges status)) "failureMessage"
      str? = some status.failureMessage :=
    optional_str_replaced once status.failureMessage (by simp [machineStatusChanges])
  simp [MetalMachineStatus.read?, fields?_obj_of_once given, defaulted_known, optional_known,
    ready, addresses, conditions, reason, message]

theorem givesStatus_machine {status : MetalMachineStatus}
    (dated : ∀ condition ∈ status.conditions, condition.IsDated)
    (members : List (String × Json)) :
    GivesStatus MetalMachineStatus.read? status members (machineStatusPatch status) :=
  givesStatus_of_changed fun target => ⟨_, changed?_obj target (machineStatusChanges status),
    read?_machineStatusChanges dated target.members⟩

/-! ## Bindings -/

/-- What a patch changes of the status of a binding. -/
def bindingStatusChanges (status : ServerBindingStatus) : List (String × Json) := [
  ("ready", .bool status.ready),
  ("conditions", fullList Condition.write status.conditions)]

/-- Every field of a binding's status is the new one. -/
theorem read?_bindingStatusChanges {status : ServerBindingStatus}
    (dated : ∀ condition ∈ status.conditions, condition.IsDated)
    (members : List (String × Json)) :
    ServerBindingStatus.read? (.obj (patchMembers members (bindingStatusChanges status))) =
      some status := by
  have once : ((bindingStatusChanges status).map Prod.fst).Nodup := by
    simp [bindingStatusChanges]
  have given : GivenOnce ["ready", "conditions"]
      (patchMembers members (bindingStatusChanges status)) :=
    givenOnce_of_named once (by simp [bindingStatusChanges])
  have ready : defaulted (patchMembers members (bindingStatusChanges status)) "ready" false bool? =
      some status.ready :=
    defaulted_bool_replaced once status.ready (by simp [bindingStatusChanges])
  have conditions : defaulted (patchMembers members (bindingStatusChanges status)) "conditions" []
      (list? Condition.read?) = some status.conditions :=
    defaulted_list_replaced once (by simp [bindingStatusChanges, fullList])
      fun condition listed => Condition.read?_write (dated condition listed)
  simp [ServerBindingStatus.read?, fields?_obj_of_once given, defaulted_known, ready, conditions]

theorem givesStatus_binding {status : ServerBindingStatus}
    (dated : ∀ condition ∈ status.conditions, condition.IsDated)
    (members : List (String × Json)) :
    GivesStatus ServerBindingStatus.read? status members (bindingStatusPatch status) :=
  givesStatus_of_changed fun target => ⟨_, changed?_obj target (bindingStatusChanges status),
    read?_bindingStatusChanges dated target.members⟩

/-! ## Classes -/

/-- What a patch changes of the status of a class. -/
def classStatusChanges (status : ServerClassStatus) : List (String × Json) := [
  ("serversAvailable", .strings status.serversAvailable),
  ("serversInUse", .strings status.serversInUse)]

/-- Every field of a class's status is the new one. -/
theorem read?_classStatusChanges (status : ServerClassStatus) (members : List (String × Json)) :
    ServerClassStatus.read? (.obj (patchMembers members (classStatusChanges status))) =
      some status := by
  have once : ((classStatusChanges status).map Prod.fst).Nodup := by simp [classStatusChanges]
  have given : GivenOnce ["serversAvailable", "serversInUse"]
      (patchMembers members (classStatusChanges status)) :=
    givenOnce_of_named once (by simp [classStatusChanges])
  have available : defaulted (patchMembers members (classStatusChanges status)) "serversAvailable"
      [] (list? str?) = some status.serversAvailable :=
    defaulted_strings_replaced once (by simp [classStatusChanges])
  have in_use : defaulted (patchMembers members (classStatusChanges status)) "serversInUse" []
      (list? str?) = some status.serversInUse :=
    defaulted_strings_replaced once (by simp [classStatusChanges])
  simp [ServerClassStatus.read?, fields?_obj_of_once given, defaulted_known, available, in_use]

theorem givesStatus_class (status : ServerClassStatus) (members : List (String × Json)) :
    GivesStatus ServerClassStatus.read? status members (classStatusPatch status) :=
  givesStatus_of_changed fun target => ⟨_, changed?_obj target (classStatusChanges status),
    read?_classStatusChanges status target.members⟩

/-! ## All kinds -/

/-- A call that changes a status sends one request, to the path of the object's status.  It is a
patch that gives any object the status: it is read back as it was sent, nothing of an older one
survives, and no other member is touched. -/
theorem status_patches_replace (space : Option String) (members : List (String × Json)) :
    (∀ (key : ObjectKey) (status : MetalMachineStatus),
      (∀ condition ∈ status.conditions, condition.IsDated) →
      (perform space (.updateMetalMachineStatus key status)).Patches
          (MetalMachine.kind.patchRequest? (some key.space) key.name (machineStatusPatch status)
            "/status")
          key.name (machinePath key ++ "/status") (machineStatusPatch status) ∧
        GivesStatus MetalMachineStatus.read? status members (machineStatusPatch status)) ∧
    (∀ (name : String) (status : ServerBindingStatus),
      (∀ condition ∈ status.conditions, condition.IsDated) →
      (perform space (.updateServerBindingStatus name status)).Patches
          (ServerBinding.kind.patchRequest? none name (bindingStatusPatch status) "/status")
          name (bindingPath name ++ "/status") (bindingStatusPatch status) ∧
        GivesStatus ServerBindingStatus.read? status members (bindingStatusPatch status)) ∧
    ∀ (name : String) (status : ServerClassStatus),
      (perform space (.updateServerClassStatus name status)).Patches
          (ServerClass.kind.patchRequest? none name (classStatusPatch status) "/status")
          name (classPath name ++ "/status") (classStatusPatch status) ∧
        GivesStatus ServerClassStatus.read? status members (classStatusPatch status) := by
  refine ⟨fun key status dated => ⟨?_, givesStatus_machine dated members⟩,
    fun name status dated => ⟨?_, givesStatus_binding dated members⟩,
    fun name status => ⟨?_, givesStatus_class status members⟩⟩
  · exact (patches_patchMachine key (machineStatusPatch status) statusPart).discarding
  · exact patches_patchByName ServerBinding name (bindingStatusPatch status) statusPart
  · exact patches_patchByName ServerClass name (classStatusPatch status) statusPart

namespace Laboratory

/-- An object whose status tells of a failure that is over. -/
def failed : List (String × Json) := [
  ("kind", .str "MetalMachine"),
  ("status", .obj [("ready", .bool false), ("failureReason", .str "InvalidConfiguration")])]

/-- Noon of a day. -/
def noon : Timestamp where
  date := ⟨2024, 1, 1, by decide⟩
  hour := 12
  minute := 0
  second := 0
  nanos := 0
  isTimeOfDay := by decide

/-- The status of a machine that is ready. -/
def recovered : MetalMachineStatus where
  ready := true
  conditions := [Condition.holding Condition.readyType noon]

theorem recovered_isDated : ∀ condition ∈ recovered.conditions, condition.IsDated := by
  rintro condition listed
  obtain rfl := List.mem_singleton.1 listed
  rintro time known
  obtain rfl := Option.some.inj known
  decide

end Laboratory

/-- The reason of a failure that is over does not survive the one patch that is sent. -/
theorem status_patches_replace_recovered :
    (∀ condition ∈ Laboratory.recovered.conditions, condition.IsDated) ∧
    ∃ patch,
      (∀ react,
        (perform none (.updateMetalMachineStatus ⟨"lab", "m"⟩ Laboratory.recovered)).sent react = [{
          method := .patch
          path := "/apis/infrastructure.cluster.x-k8s.io/v1alpha3/namespaces/lab/metalmachines/m" ++
            "/status"
          content := some (.mergePatch patch) }]) ∧
      GivesStatus MetalMachineStatus.read? Laboratory.recovered Laboratory.failed patch := by
  obtain ⟨patches, gives⟩ := (status_patches_replace none Laboratory.failed).1 ⟨"lab", "m"⟩
    Laboratory.recovered Laboratory.recovered_isDated
  have isPath : Url.IsPath (machinePath ⟨"lab", "m"⟩ ++ "/status") := by decide +kernel
  exact ⟨Laboratory.recovered_isDated, _, patches.sends_at (by decide) isPath, gives⟩

end BareMetal.Api
