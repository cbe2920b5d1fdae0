import BareMetal.Object.MetalMachine
import BareMetal.Object.ServerBinding
import BareMetal.Object.ServerClass
import BareMetal.Proofs.Json.Fields
import BareMetal.Proofs.Time.Timestamp

/-!
# Records are read as they were written

The records that objects are made of leave out what is unset or empty when they are written, and the
reader puts the defaults in its place.  Only instants outside the years 0 to 9999 are excepted.
-/

namespace BareMetal

open Json Fields

namespace Reference

/-- A reference in object form is read field by field. -/
theorem read?_obj_iff {members : List (String × Json)} {reference : Reference} :
    read? (.obj members) = some reference ↔
      GivenOnce ["apiVersion", "kind", "name", "namespace", "uid"] members ∧
        optional members "apiVersion" str? = some reference.apiVersion ∧
        optional members "kind" str? = some reference.kind ∧
        required members "name" str? = some reference.name ∧
        optional members "namespace" str? = some reference.space ∧
        optional members "uid" str? = some reference.uid := by
  obtain ⟨apiVersion, kind, name, space, uid⟩ := reference
  rw [read?, fields?_obj_bind_eq_some_iff]
  simp (disch := decide) only [optional_known, required_known, chain_eq_some_iff, Option.pure_def,
    Option.some.injEq]
  grind

theorem read?_write (reference : Reference) : read? reference.write = some reference := by
  refine read?_obj_iff.2 ⟨?_, ?_, ?_, ?_, ?_, ?_⟩
  · simp [GivenOnce]
  · exact optional_of_written .str (by simp) rfl fun _ _ => rfl
  · exact optional_of_written .str (by simp) rfl fun _ _ => rfl
  · exact required_of_values (.str reference.name) (by simp)
  · exact optional_of_written .str (by simp) rfl fun _ _ => rfl
  · exact optional_of_written .str (by simp) rfl fun _ _ => rfl

end Reference

namespace LabelRequirement

theorem read?_write (requirement : LabelRequirement) :
    read? requirement.write = some requirement := by
  have once : GivenOnce ["key", "operator", "values"] requirement.write.members := by
    simp [GivenOnce, write, members]
  have key : required requirement.write.members "key" str? = some requirement.key :=
    required_of_values (.str requirement.key) (by simp [write, members])
  have operator : required requirement.write.members "operator" str? =
      some requirement.operator :=
    required_of_values (.str requirement.operator) (by simp [write, members])
  have values : defaulted requirement.write.members "values" [] (list? str?) =
      some requirement.values :=
    defaulted_of_written_list strings (by simp [write, members, strings])
      (list?_strings requirement.values)
  change read? (.obj requirement.write.members) = some requirement
  simp [read?, fields?_obj_of_once once, required_known, defaulted_known, key, operator, values]

end LabelRequirement

namespace CpuInformation

theorem read?_write (cpu : CpuInformation) : read? cpu.write = some cpu := by
  have once : GivenOnce ["manufacturer", "version"] cpu.write.members := by
    simp [GivenOnce, write, members]
  have manufacturer : defaulted cpu.write.members "manufacturer" "" str? =
      some cpu.manufacturer :=
    defaulted_of_written_text (by simp [write, members])
  have version : defaulted cpu.write.members "version" "" str? = some cpu.version :=
    defaulted_of_written_text (by simp [write, members])
  change read? (.obj cpu.write.members) = some cpu
  simp [read?, fields?_obj_of_once once, defaulted_known, manufacturer, version]

end CpuInformation

namespace SystemInformation

theorem read?_write (system : SystemInformation) : read? system.write = some system := by
  have once : GivenOnce
      ["manufacturer", "productName", "version", "serialNumber", "skuNumber", "family"]
      system.write.members := by
    simp [GivenOnce, write, members]
  have manufacturer : defaulted system.write.members "manufacturer" "" str? =
      some system.manufacturer :=
    defaulted_of_written_text (by simp [write, members])
  have product : defaulted system.write.members "productName" "" str? = some system.productName :=
    defaulted_of_written_text (by simp [write, members])
  have version : defaulted system.write.members "version" "" str? = some system.version :=
    defaulted_of_written_text (by simp [write, members])
  have serial : defaulted system.write.members "serialNumber" "" str? =
      some system.serialNumber :=
    defaulted_of_written_text (by simp [write, members])
  have sku : defaulted system.write.members "skuNumber" "" str? = some system.skuNumber :=
    defaulted_of_written_text (by simp [write, members])
  have family : defaulted system.write.members "family" "" str? = some system.family :=
    defaulted_of_written_text (by simp [write, members])
  change read? (.obj system.write.members) = some system
  simp [read?, fields?_obj_of_once once, defaulted_known, manufacturer, product, version, serial,
    sku, family]

end SystemInformation

namespace MachineAddress

theorem read?_write (address : MachineAddress) : read? address.write = some address := by
  obtain ⟨type, text⟩ := address
  cases type <;> rfl

end MachineAddress

theorem Timestamp.read?_write (time : Timestamp) (from_zero : 0 ≤ time.date.year)
    (four_digits : time.date.year ≤ 9999) : read? (.str time.write) = some time := by
  rw [read?, str?, Option.bind_some, time.parse?_write from_zero four_digits]

namespace Condition

/-- The last transition, if it is known, lies in the years that have four digits. -/
def IsDated (condition : Condition) : Prop :=
  ∀ time ∈ condition.lastTransitionTime, 0 ≤ time.date.year ∧ time.date.year ≤ 9999

theorem read?_write {condition : Condition} (dated : condition.IsDated) :
    read? condition.write = some condition := by
  have once : GivenOnce ["type", "status", "severity", "reason", "message", "lastTransitionTime"]
      condition.write.members := by
    simp [GivenOnce, write, members]
  have type : required condition.write.members "type" str? = some condition.type :=
    required_of_values (.str condition.type) (by simp [write, members])
  have status : (required condition.write.members "status" fun json =>
      json.alternative?.bind ConditionStatus.ofWord?) = some condition.status := by
    rw [required_of_values (.str condition.status.word) (by simp [write, members])]
    cases condition.status <;> rfl
  have severity : (optional condition.write.members "severity" fun json =>
      json.alternative?.bind ConditionSeverity.ofWord?) = some condition.severity :=
    optional_of_written (fun severity => .str severity.word) (by simp [write, members]) rfl
      fun severity _ => by cases severity <;> rfl
  have reason : optional condition.write.members "reason" str? = some condition.reason :=
    optional_of_written .str (by simp [write, members]) rfl fun _ _ => rfl
  have message : optional condition.write.members "message" str? = some condition.message :=
    optional_of_written .str (by simp [write, members]) rfl fun _ _ => rfl
  have back : ∀ time ∈ condition.lastTransitionTime,
      Timestamp.read? (.str time.write) = some time :=
    fun time known => time.read?_write (dated time known).1 (dated time known).2
  have given : values condition.write.members "lastTransitionTime" =
      (condition.lastTransitionTime.map fun time => Json.str time.write).toList := by
    simp [write, members]
  have time : optional condition.write.members "lastTransitionTime" Timestamp.read? =
      some condition.lastTransitionTime :=
    optional_of_written _ given rfl back
  change read? (.obj condition.write.members) = some condition
  simp [read?, fields?_obj_of_once once, required_known, optional_known, type, status, severity,
    reason, message, time]

end Condition

end BareMetal
