import BareMetal.Object.Canonical
import BareMetal.Proofs.Json.Dictionaries
import BareMetal.Proofs.Object.Written

/-!
# Nothing is lost in writing

The records that the schemas of the kinds are made of, small and large, are read as they were
written: a list, a text or a field that is left out because it is empty comes back as the default,
and a dictionary comes back with all its pairs.  So what is accepted keeps its meaning when it is
brought into its canonical form.
-/

namespace BareMetal

open Json Fields

/-- A truth value is read as it was written. -/
theorem Json.Fields.defaulted_of_written_bool {fields : Fields} {name : String}
    {value default : Bool} (given : values fields name = [.bool value]) :
    fields.defaulted name default bool? = some value :=
  defaulted_of_values _ given

/-! ## Servers -/

theorem ServerSpec.read?_write (spec : ServerSpec) : read? spec.write = some spec := by
  have once : GivenOnce
      ["accepted", "cordoned", "cpu", "systemInformation", "hostname", "environmentRef"]
      spec.write.members := by
    simp [GivenOnce, write, members]
  have accepted : defaulted spec.write.members "accepted" false bool? = some spec.accepted :=
    defaulted_of_written_bool (by simp [write, members])
  have cordoned : defaulted spec.write.members "cordoned" false bool? = some spec.cordoned :=
    defaulted_of_written_bool (by simp [write, members])
  have cpu : optional spec.write.members "cpu" CpuInformation.read? = some spec.cpu :=
    optional_of_written CpuInformation.write (by simp [write, members]) rfl
      fun cpu _ => cpu.read?_write
  have system : optional spec.write.members "systemInformation" SystemInformation.read? =
      some spec.systemInformation :=
    optional_of_written SystemInformation.write (by simp [write, members]) rfl
      fun system _ => system.read?_write
  have hostname : optional spec.write.members "hostname" str? = some spec.hostname :=
    optional_of_written .str (by simp [write, members]) rfl fun _ _ => rfl
  have environment : optional spec.write.members "environmentRef" Reference.read? =
      some spec.environmentRef :=
    optional_of_written Reference.write (by simp [write, members]) rfl
      fun reference _ => reference.read?_write
  change read? (.obj spec.write.members) = some spec
  simp [read?, fields?_obj_of_once once, defaulted_known, optional_known, accepted, cordoned, cpu,
    system, hostname, environment]

theorem ServerStatus.read?_write (status : ServerStatus) : read? status.write = some status := rfl

/-! ## Server classes -/

theorem Dict.eq_empty_of_isEmpty {κ υ : Type} [Ord κ] {dict : Dict κ υ}
    (none_there : dict.isEmpty = true) : dict = empty := by
  obtain ⟨entries, ascending⟩ := dict
  obtain rfl := List.isEmpty_iff.1 none_there
  rfl

theorem Selector.read?_write (selector : Selector) : read? selector.write = some selector := by
  have once : GivenOnce ["matchLabels", "matchExpressions"] selector.write.members := by
    by_cases unlabelled : selector.matchLabels.isEmpty = true <;>
      simp [GivenOnce, write, members, unlabelled]
  have labels : defaulted selector.write.members "matchLabels" Dict.empty (dict? str?) =
      some selector.matchLabels := by
    by_cases unlabelled : selector.matchLabels.isEmpty = true
    · rw [Dict.eq_empty_of_isEmpty unlabelled]
      exact defaulted_of_missing (by simp [write, members, unlabelled])
    · rw [defaulted_of_values (ofDict .str selector.matchLabels)
        (by simp [write, members, unlabelled]), dict?_ofDict_str]
  have expressions : defaulted selector.write.members "matchExpressions" []
      (list? LabelRequirement.read?) = some selector.matchExpressions := by
    refine defaulted_of_written_list (fun items => .arr (items.map LabelRequirement.write)) ?_
      (list?_map fun requirement _ => requirement.read?_write)
    by_cases unlabelled : selector.matchLabels.isEmpty = true <;>
      simp [write, members, unlabelled]
  change read? (.obj selector.write.members) = some selector
  simp [read?, fields?_obj_of_once once, defaulted_known, labels, expressions]

theorem Qualifiers.read?_write (qualifiers : Qualifiers) :
    read? qualifiers.write = some qualifiers := by
  have once : GivenOnce ["cpu", "systemInformation", "labelSelectors"]
      qualifiers.write.members := by
    simp [GivenOnce, write, members]
  have cpu : defaulted qualifiers.write.members "cpu" [] (list? CpuInformation.read?) =
      some qualifiers.cpu :=
    defaulted_of_written_list (fun items => .arr (items.map CpuInformation.write))
      (by simp [write, members]) (list?_map fun cpu _ => cpu.read?_write)
  have system : defaulted qualifiers.write.members "systemInformation" []
      (list? SystemInformation.read?) = some qualifiers.systemInformation :=
    defaulted_of_written_list (fun items => .arr (items.map SystemInformation.write))
      (by simp [write, members]) (list?_map fun system _ => system.read?_write)
  have labels : defaulted qualifiers.write.members "labelSelectors" [] (list? (dict? str?)) =
      some qualifiers.labelSelectors :=
    defaulted_of_written_list (fun items => .arr (items.map (ofDict .str)))
      (by simp [write, members]) (list?_map fun labels _ => dict?_ofDict_str labels)
  change read? (.obj qualifiers.write.members) = some qualifiers
  simp [read?, fields?_obj_of_once once, defaulted_known, cpu, system, labels]

theorem ServerClassSpec.read?_write (spec : ServerClassSpec) :
    read? spec.write = some spec := by
  have once : GivenOnce ["selector", "qualifiers", "environmentRef"] spec.write.members := by
    simp [GivenOnce, write, members]
  have selector : optional spec.write.members "selector" Selector.read? = some spec.selector :=
    optional_of_written Selector.write (by simp [write, members]) rfl
      fun selector _ => selector.read?_write
  have qualifiers : defaulted spec.write.members "qualifiers" {} Qualifiers.read? =
      some spec.qualifiers :=
    (defaulted_of_values spec.qualifiers.write (by simp [write, members])).trans
      spec.qualifiers.read?_write
  have environment : optional spec.write.members "environmentRef" Reference.read? =
      some spec.environmentRef :=
    optional_of_written Reference.write (by simp [write, members]) rfl
      fun reference _ => reference.read?_write
  change read? (.obj spec.write.members) = some spec
  simp [read?, fields?_obj_of_once once, defaulted_known, optional_known, selector, qualifiers,
    environment]

theorem ServerClassStatus.read?_write (status : ServerClassStatus) :
    read? status.write = some status := by
  have once : GivenOnce ["serversAvailable", "serversInUse"] status.write.members := by
    simp [GivenOnce, write, members]
  have available : defaulted status.write.members "serversAvailable" [] (list? str?) =
      some status.serversAvailable :=
    (defaulted_of_values (strings status.serversAvailable) (by simp [write, members])).trans
      (list?_strings _)
  have in_use : defaulted status.write.members "serversInUse" [] (list? str?) =
      some status.serversInUse :=
    (defaulted_of_values (strings status.serversInUse) (by simp [write, members])).trans
      (list?_strings _)
  change read? (.obj status.write.members) = some status
  simp [read?, fields?_obj_of_once once, defaulted_known, available, in_use]

/-! ## Bindings -/

theorem ServerBindingSpec.read?_write (spec : ServerBindingSpec) :
    read? spec.write = some spec := by
  have once : GivenOnce ["metalMachineRef", "serverClassRef", "addresses", "hostname"]
      spec.write.members := by
    simp [GivenOnce, write, members]
  have holder : required spec.write.members "metalMachineRef" Reference.read? =
      some spec.metalMachineRef :=
    (required_of_values spec.metalMachineRef.write (by simp [write, members])).trans
      spec.metalMachineRef.read?_write
  have serverClass : optional spec.write.members "serverClassRef" Reference.read? =
      some spec.serverClassRef :=
    optional_of_written Reference.write (by simp [write, members]) rfl
      fun reference _ => reference.read?_write
  have addresses : defaulted spec.write.members "addresses" [] (list? str?) =
      some spec.addresses :=
    defaulted_of_written_list strings (by simp [write, members, strings]) (list?_strings _)
  have hostname : optional spec.write.members "hostname" str? = some spec.hostname :=
    optional_of_written .str (by simp [write, members]) rfl fun _ _ => rfl
  change read? (.obj spec.write.members) = some spec
  simp [read?, fields?_obj_of_once once, required_known, defaulted_known, optional_known, holder,
    serverClass, addresses, hostname]

/-- A list of conditions is read as it was written if their times are dated. -/
theorem Condition.list?_write {conditions : List Condition}
    (dated : ∀ condition ∈ conditions, condition.IsDated) :
    list? Condition.read? (.arr (conditions.map Condition.write)) = some conditions :=
  list?_map fun condition listed => read?_write (dated condition listed)

theorem ServerBindingStatus.read?_write {status : ServerBindingStatus}
    (dated : ∀ condition ∈ status.conditions, condition.IsDated) :
    read? status.write = some status := by
  have once : GivenOnce ["ready", "conditions"] status.write.members := by
    simp [GivenOnce, write, members]
  have ready : defaulted status.write.members "ready" false bool? = some status.ready :=
    defaulted_of_written_bool (by simp [write, members])
  have conditions : defaulted status.write.members "conditions" [] (list? Condition.read?) =
      some status.conditions :=
    defaulted_of_written_list (fun items => .arr (items.map Condition.write))
      (by simp [write, members]) (Condition.list?_write dated)
  change read? (.obj status.write.members) = some status
  simp [read?, fields?_obj_of_once once, defaulted_known, ready, conditions]

/-! ## Metal machines -/

theorem MetalMachineSpec.read?_write (spec : MetalMachineSpec) : read? spec.write = some spec := by
  have once : GivenOnce ["providerID", "serverRef", "serverClassRef"] spec.write.members := by
    simp [GivenOnce, write, members]
  have provider : optional spec.write.members "providerID" str? = some spec.providerId :=
    optional_of_written .str (by simp [write, members]) rfl fun _ _ => rfl
  have server : optional spec.write.members "serverRef" Reference.read? = some spec.serverRef :=
    optional_of_written Reference.write (by simp [write, members]) rfl
      fun reference _ => reference.read?_write
  have serverClass : optional spec.write.members "serverClassRef" Reference.read? =
      some spec.serverClassRef :=
    optional_of_written Reference.write (by simp [write, members]) rfl
      fun reference _ => reference.read?_write
  change read? (.obj spec.write.members) = some spec
  simp [read?, fields?_obj_of_once once, optional_known, provider, server, serverClass]

theorem MetalMachineStatus.read?_write {status : MetalMachineStatus}
    (dated : ∀ condition ∈ status.conditions, condition.IsDated) :
    read? status.write = some status := by
  have once : GivenOnce ["ready", "addresses", "conditions", "failureReason", "failureMessage"]
      status.write.members := by
    simp [GivenOnce, write, members]
  have ready : defaulted status.write.members "ready" false bool? = some status.ready :=
    defaulted_of_written_bool (by simp [write, members])
  have addresses : defaulted status.write.members "addresses" [] (list? MachineAddress.read?) =
      some status.addresses :=
    defaulted_of_written_list (fun items => .arr (items.map MachineAddress.write))
      (by simp [write, members]) (list?_map fun address _ => address.read?_write)
  have conditions : defaulted status.write.members "conditions" [] (list? Condition.read?) =
      some status.conditions :=
    defaulted_of_written_list (fun items => .arr (items.map Condition.write))
      (by simp [write, members]) (Condition.list?_write dated)
  have reason : optional status.write.members "failureReason" str? = some status.failureReason :=
    optional_of_written .str (by simp [write, members]) rfl fun _ _ => rfl
  have message : optional status.write.members "failureMessage" str? =
      some status.failureMessage :=
    optional_of_written .str (by simp [write, members]) rfl fun _ _ => rfl
  change read? (.obj status.write.members) = some status
  simp [read?, fields?_obj_of_once once, defaulted_known, optional_known, ready, addresses,
    conditions, reason, message]

/-! ## Owners -/

theorem Bootstrap.read?_write (bootstrap : Bootstrap) :
    read? bootstrap.write = some bootstrap := by
  have once : GivenOnce ["dataSecretName"] bootstrap.write.members := by
    simp [GivenOnce, write, members]
  have secret : optional bootstrap.write.members "dataSecretName" str? =
      some bootstrap.dataSecretName :=
    optional_of_written .str (by simp [write, members]) rfl fun _ _ => rfl
  change read? (.obj bootstrap.write.members) = some bootstrap
  simp [read?, fields?_obj_of_once once, optional_known, secret]

theorem MachineSpec.read?_write (spec : MachineSpec) : read? spec.write = some spec := by
  have once : GivenOnce ["clusterName", "bootstrap"] spec.write.members := by
    simp [GivenOnce, write, members]
  have cluster : defaulted spec.write.members "clusterName" "" str? = some spec.clusterName :=
    defaulted_of_values (.str spec.clusterName) (by simp [write, members])
  have bootstrap : defaulted spec.write.members "bootstrap" {} Bootstrap.read? =
      some spec.bootstrap :=
    (defaulted_of_values spec.bootstrap.write (by simp [write, members])).trans
      spec.bootstrap.read?_write
  change read? (.obj spec.write.members) = some spec
  simp [read?, fields?_obj_of_once once, defaulted_known, cluster, bootstrap]

theorem ClusterSpec.read?_write (spec : ClusterSpec) : read? spec.write = some spec := rfl

theorem ClusterStatus.read?_write (status : ClusterStatus) : read? status.write = some status :=
  rfl

/-! ## All types -/

/-- The types of records that the schemas of the kinds are made of. -/
inductive RecordType where
  | serverSpec
  | serverStatus
  | cpuInformation
  | systemInformation
  | serverClassSpec
  | serverClassStatus
  | qualifiers
  | labelSelector
  | labelRequirement
  | serverBindingSpec
  | serverBindingStatus
  | metalMachineSpec
  | metalMachineStatus
  | machineAddress
  | condition
  | reference
  | machineSpec
  | clusterSpec
  | clusterStatus

namespace RecordType

/-- The values of a type. -/
@[reducible] def Value : RecordType → Type
  | serverSpec => ServerSpec
  | serverStatus => ServerStatus
  | cpuInformation => CpuInformation
  | systemInformation => SystemInformation
  | serverClassSpec => ServerClassSpec
  | serverClassStatus => ServerClassStatus
  | qualifiers => Qualifiers
  | labelSelector => Selector
  | labelRequirement => LabelRequirement
  | serverBindingSpec => ServerBindingSpec
  | serverBindingStatus => ServerBindingStatus
  | metalMachineSpec => MetalMachineSpec
  | metalMachineStatus => MetalMachineStatus
  | machineAddress => MachineAddress
  | condition => Condition
  | reference => Reference
  | machineSpec => MachineSpec
  | clusterSpec => ClusterSpec
  | clusterStatus => ClusterStatus

/-- A value from its JSON form. -/
def read? : (type : RecordType) → Json → Option type.Value
  | serverSpec => ServerSpec.read?
  | serverStatus => ServerStatus.read?
  | cpuInformation => CpuInformation.read?
  | systemInformation => SystemInformation.read?
  | serverClassSpec => ServerClassSpec.read?
  | serverClassStatus => ServerClassStatus.read?
  | qualifiers => Qualifiers.read?
  | labelSelector => Selector.read?
  | labelRequirement => LabelRequirement.read?
  | serverBindingSpec => ServerBindingSpec.read?
  | serverBindingStatus => ServerBindingStatus.read?
  | metalMachineSpec => MetalMachineSpec.read?
  | metalMachineStatus => MetalMachineStatus.read?
  | machineAddress => MachineAddress.read?
  | condition => Condition.read?
  | reference => Reference.read?
  | machineSpec => MachineSpec.read?
  | clusterSpec => ClusterSpec.read?
  | clusterStatus => ClusterStatus.read?

/-- The JSON form of a value. -/
def write : (type : RecordType) → type.Value → Json
  | serverSpec => ServerSpec.write
  | serverStatus => ServerStatus.write
  | cpuInformation => CpuInformation.write
  | systemInformation => SystemInformation.write
  | serverClassSpec => ServerClassSpec.write
  | serverClassStatus => ServerClassStatus.write
  | qualifiers => Qualifiers.write
  | labelSelector => Selector.write
  | labelRequirement => LabelRequirement.write
  | serverBindingSpec => ServerBindingSpec.write
  | serverBindingStatus => ServerBindingStatus.write
  | metalMachineSpec => MetalMachineSpec.write
  | metalMachineStatus => MetalMachineStatus.write
  | machineAddress => MachineAddress.write
  | condition => Condition.write
  | reference => Reference.write
  | machineSpec => MachineSpec.write
  | clusterSpec => ClusterSpec.write
  | clusterStatus => ClusterStatus.write

/-- The conditions of a value. -/
def conditions : (type : RecordType) → type.Value → List Condition
  | condition, value => [value]
  | serverBindingStatus, value => value.conditions
  | metalMachineStatus, value => value.conditions
  | _, _ => []

/-- All times of a value lie in the years that have four digits. -/
def IsDated (type : RecordType) (value : type.Value) : Prop :=
  ∀ condition ∈ type.conditions value, condition.IsDated

end RecordType

/-- A value whose times are dated is read as it was written, so that whatever is accepted as that
value still is in its canonical form. -/
theorem read_back_as_written (type : RecordType) (value : type.Value)
    (dated : type.IsDated value) :
    type.read? (type.write value) = some value ∧
      ∀ json, type.read? json = some value →
        (normalForm type.read? type.write json).bind type.read? = some value := by
  have back : type.read? (type.write value) = some value := by
    cases type with
    | serverSpec => exact ServerSpec.read?_write value
    | serverStatus => exact ServerStatus.read?_write value
    | cpuInformation => exact CpuInformation.read?_write value
    | systemInformation => exact SystemInformation.read?_write value
    | serverClassSpec => exact ServerClassSpec.read?_write value
    | serverClassStatus => exact ServerClassStatus.read?_write value
    | qualifiers => exact Qualifiers.read?_write value
    | labelSelector => exact Selector.read?_write value
    | labelRequirement => exact LabelRequirement.read?_write value
    | serverBindingSpec => exact ServerBindingSpec.read?_write value
    | serverBindingStatus => exact ServerBindingStatus.read?_write dated
    | metalMachineSpec => exact MetalMachineSpec.read?_write value
    | metalMachineStatus => exact MetalMachineStatus.read?_write dated
    | machineAddress => exact MachineAddress.read?_write value
    | condition => exact Condition.read?_write (dated value List.mem_cons_self)
    | reference => exact Reference.read?_write value
    | machineSpec => exact MachineSpec.read?_write value
    | clusterSpec => exact ClusterSpec.read?_write value
    | clusterStatus => exact ClusterStatus.read?_write value
  refine ⟨back, fun json accepted => ?_⟩
  simp [normalForm, accepted, back]

namespace Laboratory

/-- A leap second with a fraction of nine digits. -/
def leapSecond : Timestamp where
  date := ⟨2016, 12, 31, by decide⟩
  hour := 23
  minute := 59
  second := 59
  nanos := 1000000001
  isTimeOfDay := by decide

/-- A status that has fields which are there, but empty. -/
def hollow : MetalMachineStatus where
  conditions := [{
    type := Condition.readyType
    status := .fails
    message := some ""
    lastTransitionTime := some leapSecond }]
  failureReason := some ""

/-- The same status, written by somebody else. -/
def scribbled : Json := .obj [
  ("failureReason", .str ""),
  ("conditions", .arr [
    .arr [.str "Ready", .obj [("False", .null)], .null, .null, .str "",
      .str "2016-12-31 18:59:60.000000001-0500"]]),
  ("failureMessage", .null),
  ("phase", .str "Pending")]

theorem hollow_isDated : RecordType.metalMachineStatus.IsDated hollow := by
  intro condition listed
  obtain rfl := List.mem_singleton.1 listed
  intro time known
  obtain rfl := Option.some.inj known
  decide

end Laboratory

/-- Fields that are there but empty are not taken for missing ones, and no nanosecond is lost. -/
theorem read_back_as_written_hollow :
    RecordType.metalMachineStatus.IsDated Laboratory.hollow ∧
    MetalMachineStatus.read? Laboratory.hollow.write = some Laboratory.hollow ∧
    MetalMachineStatus.read? Laboratory.scribbled = some Laboratory.hollow ∧
    (normalForm MetalMachineStatus.read? MetalMachineStatus.write Laboratory.scribbled).bind
      MetalMachineStatus.read? = some Laboratory.hollow := by
  have accepted : MetalMachineStatus.read? Laboratory.scribbled = some Laboratory.hollow := by
    decide
  have back :=
    read_back_as_written .metalMachineStatus Laboratory.hollow Laboratory.hollow_isDated
  exact ⟨Laboratory.hollow_isDated, back.1, accepted, back.2 Laboratory.scribbled accepted⟩

end BareMetal
