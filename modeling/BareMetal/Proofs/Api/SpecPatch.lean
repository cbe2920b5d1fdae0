import BareMetal.Proofs.Api.Sending
import BareMetal.Proofs.Object.Merging

/-!
# Patches of a request and of a filter

A change of a request or of a filter is sent as a merge patch of the whole spec.  Objects inside of
it are merged and not replaced, and what is unset in a reference or a selector is not written at
all, so that what was stored under such a field stays: the new value is laid over the old one.
-/

namespace BareMetal

open Json Fields

section

variable {α : Type} {read : Json → Option α} {members changes : List (String × Json)}
  {name : String}

/-- A field that has to be given is read from what stands under its name. -/
theorem read_target_of_required {value : α} (single : (values members name).length ≤ 1)
    (reads : required members name read = some value) :
    read ((Json.obj members).target name) = some value := by
  rw [target, get?, Json.members, lookup_eq_head?]
  cases found : values members name with
  | nil => simp [required, found, readLast] at reads
  | cons json others =>
      obtain rfl : others = [] := by simpa [found] using single
      rw [required_of_values json found] at reads
      exact reads

theorem optional_reference_merged (once : (changes.map Prod.fst).Nodup) {json : Json}
    {new : Option Reference} (given : values changes name = [ofOption Reference.write new])
    (readable : json.Readable Reference.read? name) :
    optional (patchMembers json.members changes) name Reference.read? =
      some (new.map (·.upon (json.record? Reference.read? name))) :=
  optional_merged once _ given rfl fun value =>
    ⟨_, changed?_obj _ value.write.members, value.read?_merged readable⟩

end

/-! ## Requests -/

namespace MetalMachineSpec

/-- A request whose references are laid over those that a value holds. -/
def upon (new : MetalMachineSpec) (stored : Json) : MetalMachineSpec where
  providerId := new.providerId
  serverRef := new.serverRef.map (·.upon (stored.record? Reference.read? "serverRef"))
  serverClassRef :=
    new.serverClassRef.map (·.upon (stored.record? Reference.read? "serverClassRef"))

/-- A request in object form is read field by field. -/
theorem read?_obj_iff {members : List (String × Json)} {spec : MetalMachineSpec} :
    read? (.obj members) = some spec ↔
      GivenOnce ["providerID", "serverRef", "serverClassRef"] members ∧
        optional members "providerID" str? = some spec.providerId ∧
        optional members "serverRef" Reference.read? = some spec.serverRef ∧
        optional members "serverClassRef" Reference.read? = some spec.serverClassRef := by
  obtain ⟨providerId, serverRef, serverClassRef⟩ := spec
  rw [read?, fields?_obj_bind_eq_some_iff]
  simp (disch := decide) only [optional_known, chain_eq_some_iff, Option.pure_def,
    Option.some.injEq]
  grind

/-- What a patch changes of a request. -/
def changes (spec : MetalMachineSpec) : List (String × Json) := [
  ("providerID", Json.ofOption .str spec.providerId),
  ("serverRef", Json.ofOption Reference.write spec.serverRef),
  ("serverClassRef", Json.ofOption Reference.write spec.serverClassRef)]

theorem read?_merged {json : Json} {old : MetalMachineSpec} (reads : read? json = some old)
    (new : MetalMachineSpec) :
    read? (.obj (patchMembers json.members new.changes)) = some (new.upon json) := by
  have once : (new.changes.map Prod.fst).Nodup := by simp [changes]
  have readable : json.Readable Reference.read? "serverRef" ∧
      json.Readable Reference.read? "serverClassRef" := by
    cases json with
    | obj members =>
        obtain ⟨-, -, server, serverClass⟩ := read?_obj_iff.1 reads
        exact ⟨readable_of_optional server, readable_of_optional serverClass⟩
    | _ => exact ⟨readable_of_no_members rfl, readable_of_no_members rfl⟩
  refine read?_obj_iff.2 ⟨?_, ?_, ?_, ?_⟩
  · exact givenOnce_of_named once (by simp [changes])
  · exact optional_str_replaced once new.providerId (by simp [changes])
  · exact optional_reference_merged once (by simp [changes]) readable.1
  · exact optional_reference_merged once (by simp [changes]) readable.2

end MetalMachineSpec

/-! ## Filters -/

namespace Qualifiers

/-- What a patch changes of qualifiers. -/
def changes (qualifiers : Qualifiers) : List (String × Json) := [
  ("cpu", Api.fullList CpuInformation.write qualifiers.cpu),
  ("systemInformation", Api.fullList SystemInformation.write qualifiers.systemInformation),
  ("labelSelectors", Api.fullList (Json.ofDict .str) qualifiers.labelSelectors)]

/-- Every list of qualifiers is the new one. -/
theorem read?_replaced (new : Qualifiers) (members : List (String × Json)) :
    read? (.obj (patchMembers members new.changes)) = some new := by
  have once : (new.changes.map Prod.fst).Nodup := by simp [changes]
  have given : GivenOnce ["cpu", "systemInformation", "labelSelectors"]
      (patchMembers members new.changes) :=
    givenOnce_of_named once (by simp [changes])
  have cpu : defaulted (patchMembers members new.changes) "cpu" [] (list? CpuInformation.read?) =
      some new.cpu :=
    defaulted_list_replaced once (by simp [changes, Api.fullList]) fun cpu _ => cpu.read?_write
  have system : defaulted (patchMembers members new.changes) "systemInformation" []
      (list? SystemInformation.read?) = some new.systemInformation :=
    defaulted_list_replaced once (by simp [changes, Api.fullList])
      fun system _ => system.read?_write
  have labels : defaulted (patchMembers members new.changes) "labelSelectors" []
      (list? (dict? str?)) = some new.labelSelectors :=
    defaulted_list_replaced once (by simp [changes, Api.fullList])
      fun labels _ => dict?_ofDict_str labels
  simp [read?, fields?_obj_of_once given, defaulted_known, cpu, system, labels]

end Qualifiers

namespace ServerClassSpec

/-- A filter whose selector and reference are laid over those that a value holds. -/
def upon (new : ServerClassSpec) (stored : Json) : ServerClassSpec where
  selector := new.selector.map (·.upon (stored.record? Selector.read? "selector"))
  qualifiers := new.qualifiers
  environmentRef :=
    new.environmentRef.map (·.upon (stored.record? Reference.read? "environmentRef"))

/-- A filter in object form is read field by field. -/
theorem read?_obj_iff {members : List (String × Json)} {spec : ServerClassSpec} :
    read? (.obj members) = some spec ↔
      GivenOnce ["selector", "qualifiers", "environmentRef"] members ∧
        optional members "selector" Selector.read? = some spec.selector ∧
        defaulted members "qualifiers" {} Qualifiers.read? = some spec.qualifiers ∧
        optional members "environmentRef" Reference.read? = some spec.environmentRef := by
  obtain ⟨selector, qualifiers, environmentRef⟩ := spec
  rw [read?, fields?_obj_bind_eq_some_iff]
  simp (disch := decide) only [optional_known, defaulted_known, chain_eq_some_iff, Option.pure_def,
    Option.some.injEq]
  grind

/-- What a patch changes of a filter. -/
def changes (spec : ServerClassSpec) : List (String × Json) := [
  ("selector", Json.ofOption Selector.write spec.selector),
  ("qualifiers", .obj spec.qualifiers.changes),
  ("environmentRef", Json.ofOption Reference.write spec.environmentRef)]

theorem read?_merged {json : Json} {old : ServerClassSpec} (reads : read? json = some old)
    (new : ServerClassSpec) :
    read? (.obj (patchMembers json.members new.changes)) = some (new.upon json) := by
  have once : (new.changes.map Prod.fst).Nodup := by simp [changes]
  have readable : json.Readable Selector.read? "selector" ∧
      json.Readable Reference.read? "environmentRef" := by
    cases json with
    | obj members =>
        obtain ⟨-, selector, -, environment⟩ := read?_obj_iff.1 reads
        exact ⟨readable_of_optional selector, readable_of_optional environment⟩
    | _ => exact ⟨readable_of_no_members rfl, readable_of_no_members rfl⟩
  refine read?_obj_iff.2 ⟨?_, ?_, ?_, ?_⟩
  · exact givenOnce_of_named once (by simp [changes])
  · exact optional_merged once Selector.write (by simp [changes]) rfl fun value =>
      ⟨_, changed?_obj _ value.write.members, value.read?_merged readable.1⟩
  · have named : values new.changes "qualifiers" = [.obj new.qualifiers.changes] := by
      simp [changes]
    rw [defaulted_of_values _ (by rw [values_of_change once named, changed?_obj]; rfl)]
    exact new.qualifiers.read?_replaced _
  · exact optional_reference_merged once (by simp [changes]) readable.2

end ServerClassSpec

/-! ## Objects -/

/-- The parts of an object are read field by field. -/
theorem Resource.readParts?_obj_iff {σ τ : Type} {readSpec : Json → Option σ}
    {readStatus : Json → Option τ} {members : List (String × Json)} {metadata : Metadata}
    {spec : σ} {status : Option τ} :
    readParts? readSpec readStatus (.obj members) = some (metadata, spec, status) ↔
      GivenOnce ["metadata", "spec", "status"] members ∧
        required members "metadata" Metadata.read? = some metadata ∧
        required members "spec" readSpec = some spec ∧
        optional members "status" readStatus = some status := by
  rw [readParts?, fields?_obj_bind_eq_some_iff]
  simp (disch := decide) only [optional_known, required_known, chain_eq_some_iff, Option.pure_def,
    Option.some.injEq]
  grind

/-- What a patch of a machine changes of its metadata. -/
def Metadata.changes (metadata : Metadata) : List (String × Json) := [
  ("finalizers", .strings (metadata.finalizers.getD [])),
  ("resourceVersion", Json.ofOption .str metadata.resourceVersion)]

/-- Metadata with the finalizers and the version of others. -/
def Metadata.guardedBy (stored metadata : Metadata) : Metadata :=
  { stored with
    finalizers := some (metadata.finalizers.getD [])
    resourceVersion := metadata.resourceVersion }

theorem Metadata.read?_merged {json : Json} {stored : Metadata} (reads : read? json = some stored)
    (new : Metadata) :
    read? (.obj (patchMembers json.members new.changes)) = some (stored.guardedBy new) := by
  have once : (new.changes.map Prod.fst).Nodup := by simp [changes]
  have version : optional (patchMembers json.members new.changes) "resourceVersion" str? =
      some new.resourceVersion :=
    optional_str_replaced once new.resourceVersion (by simp [changes])
  have finalizers : optional (patchMembers json.members new.changes) "finalizers" (list? str?) =
      some (some (new.finalizers.getD [])) := by
    have named : values new.changes "finalizers" = [.strings (new.finalizers.getD [])] := by
      simp [changes]
    rw [optional_of_values (.strings (new.finalizers.getD []))
      (by rw [values_of_change once named, strings, changed?_arr]; rfl)]
    exact orNull_of_read rfl (list?_strings _)
  have kept {β : Type} {name : String} {read : Json → Option β} {value : Option β}
      (apart : name ≠ "finalizers" ∧ name ≠ "resourceVersion")
      (before : optional json.members name read = some value) :
      optional (patchMembers json.members new.changes) name read = some value := by
    have unnamed : values new.changes name = [] := by
      simp [changes, apart.1.symm, apart.2.symm]
    rw [optional_congr (values_of_unnamed once unnamed json.members), before]
  cases json with
  | obj members =>
      simp only [read?, chain_eq_some_iff] at reads ⊢
      obtain ⟨_, given, _, annotations, _, creation, _, grace, _, deletion, _, -, _, prefixed,
        _, generation, _, labels, _, managed, _, name, _, space, _, owners, _, -, _, link, _, uid,
        same⟩ := reads
      obtain rfl := Option.some.inj given
      obtain rfl := Option.some.inj same
      exact ⟨_, rfl, _, kept (by decide) annotations, _, kept (by decide) creation,
        _, kept (by decide) grace, _, kept (by decide) deletion, _, finalizers,
        _, kept (by decide) prefixed, _, kept (by decide) generation, _, kept (by decide) labels,
        _, kept (by decide) managed, _, kept (by decide) name, _, kept (by decide) space,
        _, kept (by decide) owners, _, version, _, kept (by decide) link, _, kept (by decide) uid,
        rfl⟩
  | _ => cases reads

/-- A field that an object is merged into. -/
theorem required_merged {α : Type} {read : Json → Option α} {value : α}
    {members changes inner : List (String × Json)} {name : String}
    (once : (changes.map Prod.fst).Nodup) (given : values changes name = [.obj inner])
    (reads : read (.obj (patchMembers ((Json.obj members).target name).members inner)) =
      some value) :
    required (patchMembers members changes) name read = some value := by
  rw [required_of_values _ (by rw [values_of_change once given, changed?_obj]; rfl)]
  exact reads

theorem MetalMachine.read?_iff {json : Json} {machine : MetalMachine} :
    read? json = some machine ↔
      Resource.readParts? MetalMachineSpec.read? MetalMachineStatus.read? json =
        some (machine.metadata, machine.spec, machine.status) := by
  obtain ⟨metadata, spec, status⟩ := machine
  simp only [read?, chain_eq_some_iff, Option.pure_def, Option.some.injEq]
  grind

/-- A patched machine has the finalizers of the patch, and its request over the one that it had. -/
theorem MetalMachine.read?_patched {members : List (String × Json)} {stored : MetalMachine}
    (reads : read? (.obj members) = some stored) (machine : MetalMachine) :
    read? ((Json.obj members).mergePatch (Api.machinePatch machine)) =
      some { stored with
        metadata := stored.metadata.guardedBy machine.metadata
        spec := machine.spec.upon ((Json.obj members).target "spec") } := by
  obtain ⟨given, metadata, spec, status⟩ :=
    Resource.readParts?_obj_iff.1 (MetalMachine.read?_iff.1 reads)
  have once : ([("metadata", Json.obj machine.metadata.changes),
      ("spec", .obj machine.spec.changes)].map Prod.fst).Nodup := by simp
  change read? (.obj (patchMembers members [("metadata", .obj machine.metadata.changes),
    ("spec", .obj machine.spec.changes)])) = _
  refine MetalMachine.read?_iff.2 (Resource.readParts?_obj_iff.2
    ⟨given.patchMembers once, ?_, ?_, ?_⟩)
  · exact required_merged once (by simp) (Metadata.read?_merged
      (read_target_of_required (given _ (by simp)) metadata) machine.metadata)
  · exact required_merged once (by simp) (MetalMachineSpec.read?_merged
      (read_target_of_required (given _ (by simp)) spec) machine.spec)
  · rw [optional_congr (values_of_unnamed once (by simp) members), status]

theorem ServerClass.read?_iff {json : Json} {serverClass : ServerClass} :
    read? json = some serverClass ↔
      Resource.readParts? ServerClassSpec.read? ServerClassStatus.read? json =
        some (serverClass.metadata, serverClass.spec, serverClass.status) := by
  obtain ⟨metadata, spec, status⟩ := serverClass
  simp only [read?, chain_eq_some_iff, Option.pure_def, Option.some.injEq]
  grind

/-- A patched class has the filter of the patch over the one that it had. -/
theorem ServerClass.read?_patched {members : List (String × Json)} {stored : ServerClass}
    (reads : read? (.obj members) = some stored) (spec : ServerClassSpec) :
    read? ((Json.obj members).mergePatch (Api.classSpecPatch spec)) =
      some { stored with spec := spec.upon ((Json.obj members).target "spec") } := by
  obtain ⟨given, metadata, spec_read, status⟩ :=
    Resource.readParts?_obj_iff.1 (ServerClass.read?_iff.1 reads)
  have once : ([("spec", Json.obj spec.changes)].map Prod.fst).Nodup := by simp
  change read? (.obj (patchMembers members [("spec", .obj spec.changes)])) = _
  refine ServerClass.read?_iff.2 (Resource.readParts?_obj_iff.2
    ⟨given.patchMembers once, ?_, ?_, ?_⟩)
  · rw [required_congr (values_of_unnamed once (by simp) members), metadata]
  · exact required_merged once (by simp) (ServerClassSpec.read?_merged
      (read_target_of_required (given _ (by simp)) spec_read) spec)
  · rw [optional_congr (values_of_unnamed once (by simp) members), status]

/-! ## What survives -/

/-- A reference sets every field, name apart, that another one sets. -/
structure Reference.Covers (new old : Reference) : Prop where
  /-- It names a version if the other does. -/
  apiVersion : new.apiVersion = none → old.apiVersion = none
  /-- It names a kind if the other does. -/
  kind : new.kind = none → old.kind = none
  /-- It names a namespace if the other does. -/
  space : new.space = none → old.space = none
  /-- It names an identifier if the other does. -/
  uid : new.uid = none → old.uid = none

/-- A selector asks for every label that another one asks for, and has a requirement if that has. -/
structure Selector.Covers (new old : Selector) : Prop where
  /-- It asks for the same labels and maybe for more. -/
  matchLabels : ∀ label, new.matchLabels.get? label = none → old.matchLabels.get? label = none
  /-- It has a requirement if the other has one. -/
  matchExpressions : new.matchExpressions = [] → old.matchExpressions = []

theorem option_or_eq_left_iff {α : Type} (new old : Option α) :
    new.or old = new ↔ (new = none → old = none) := by
  cases new <;> simp

theorem Reference.upon_eq_iff (new : Reference) (old : Option Reference) :
    new.upon old = new ↔ ∀ reference ∈ old, new.Covers reference := by
  cases old with
  | none => simp [upon]
  | some reference =>
      have fields : new.upon (some reference) = new ↔
          new.apiVersion.or reference.apiVersion = new.apiVersion ∧
            new.kind.or reference.kind = new.kind ∧ new.space.or reference.space = new.space ∧
              new.uid.or reference.uid = new.uid := by
        obtain ⟨apiVersion, kind, name, space, uid⟩ := new
        simp [upon]
      simp only [option_or_eq_left_iff] at fields
      rw [fields]
      constructor
      · rintro ⟨apiVersion, kind, space, uid⟩ _ same
        obtain rfl := Option.some.inj same
        exact ⟨apiVersion, kind, space, uid⟩
      · intro covers
        have each := covers reference rfl
        exact ⟨each.apiVersion, each.kind, each.space, each.uid⟩

theorem Selector.upon_eq_iff (new : Selector) (old : Option Selector) :
    new.upon old = new ↔ ∀ selector ∈ old, new.Covers selector := by
  have fields : new.upon old = new ↔
      new.matchLabels.upon ((old.map Selector.matchLabels).getD Dict.empty) = new.matchLabels ∧
        (new.matchExpressions = [] → (old.map Selector.matchExpressions).getD [] = []) := by
    obtain ⟨labels, requirements⟩ := new
    cases requirements <;> simp [upon]
  rw [fields, Dict.upon_eq_left_iff]
  cases old with
  | none => simp [Dict.empty, Dict.get?, Dict.lookup]
  | some selector =>
      constructor
      · rintro ⟨labels, requirements⟩ _ same
        obtain rfl := Option.some.inj same
        exact ⟨labels, requirements⟩
      · intro covers
        have each := covers selector rfl
        exact ⟨each.matchLabels, each.matchExpressions⟩

theorem option_map_eq_self_iff {α : Type} (f : α → α) (value : Option α) :
    value.map f = value ↔ ∀ item ∈ value, f item = item := by
  cases value <;> simp

/-- The references of a request set every field that those set which a value holds. -/
def MetalMachineSpec.Covers (new : MetalMachineSpec) (stored : Json) : Prop :=
  (∀ reference ∈ new.serverRef, ∀ old ∈ stored.record? Reference.read? "serverRef",
    reference.Covers old) ∧
  ∀ reference ∈ new.serverClassRef, ∀ old ∈ stored.record? Reference.read? "serverClassRef",
    reference.Covers old

theorem MetalMachineSpec.upon_eq_iff (new : MetalMachineSpec) (stored : Json) :
    new.upon stored = new ↔ new.Covers stored := by
  have fields : new.upon stored = new ↔
      new.serverRef.map (·.upon (stored.record? Reference.read? "serverRef")) = new.serverRef ∧
        new.serverClassRef.map (·.upon (stored.record? Reference.read? "serverClassRef")) =
          new.serverClassRef := by
    obtain ⟨providerId, serverRef, serverClassRef⟩ := new
    simp [upon]
  simp only [fields, option_map_eq_self_iff, Reference.upon_eq_iff, Covers]

/-- The selector and the reference of a filter set all that those set which a value holds. -/
def ServerClassSpec.Covers (new : ServerClassSpec) (stored : Json) : Prop :=
  (∀ selector ∈ new.selector, ∀ old ∈ stored.record? Selector.read? "selector",
    selector.Covers old) ∧
  ∀ reference ∈ new.environmentRef, ∀ old ∈ stored.record? Reference.read? "environmentRef",
    reference.Covers old

theorem ServerClassSpec.upon_eq_iff (new : ServerClassSpec) (stored : Json) :
    new.upon stored = new ↔ new.Covers stored := by
  have fields : new.upon stored = new ↔
      new.selector.map (·.upon (stored.record? Selector.read? "selector")) = new.selector ∧
        new.environmentRef.map (·.upon (stored.record? Reference.read? "environmentRef")) =
          new.environmentRef := by
    obtain ⟨selector, qualifiers, environmentRef⟩ := new
    simp [upon]
  simp only [fields, option_map_eq_self_iff, Reference.upon_eq_iff, Selector.upon_eq_iff, Covers]

/-- A call that changes a request or a filter sends one patch, to the path of the object.
Finalizers, the provider identifier and qualifiers become the new ones, but references and selectors
are laid over the stored ones: the object reads back as it was sent if and only if they set all that
those set. -/
theorem spec_patches_overlay (space : Option String) (members : List (String × Json)) :
    (∀ stored machine : MetalMachine, MetalMachine.read? (.obj members) = some stored →
      (Api.perform space (.updateMetalMachine machine)).Patches
        (MetalMachine.kind.patchRequest? (some machine.key.space) machine.key.name
          (Api.machinePatch machine))
        machine.key.name (Api.machinePath machine.key) (Api.machinePatch machine) ∧
      MetalMachine.read? ((Json.obj members).mergePatch (Api.machinePatch machine)) =
        some { stored with
          metadata := stored.metadata.guardedBy machine.metadata
          spec := machine.spec.upon ((Json.obj members).target "spec") } ∧
      (machine.spec.upon ((Json.obj members).target "spec") = machine.spec ↔
        machine.spec.Covers ((Json.obj members).target "spec"))) ∧
    ∀ (stored : ServerClass) (name : String) (spec : ServerClassSpec),
      ServerClass.read? (.obj members) = some stored →
      (Api.perform space (.updateServerClassSpec name spec)).Patches
        (ServerClass.kind.patchRequest? none name (Api.classSpecPatch spec)) name
        (Api.classPath name) (Api.classSpecPatch spec) ∧
      ServerClass.read? ((Json.obj members).mergePatch (Api.classSpecPatch spec)) =
        some { stored with spec := spec.upon ((Json.obj members).target "spec") } ∧
      (spec.upon ((Json.obj members).target "spec") = spec ↔
        spec.Covers ((Json.obj members).target "spec")) := by
  refine ⟨fun stored machine reads => ⟨?_, MetalMachine.read?_patched reads machine,
    MetalMachineSpec.upon_eq_iff _ _⟩, fun stored name spec reads => ⟨?_,
    ServerClass.read?_patched reads spec, ServerClassSpec.upon_eq_iff _ _⟩⟩
  · exact Api.patches_updateMetalMachine space machine
  · exact Api.patches_updateServerClassSpec space name spec

namespace Laboratory

/-- A metal machine that names its server with the identifier. -/
def heldByIdentifier : MetalMachine where
  metadata := { name := some "m", space := some "lab" }
  spec := { serverRef := some { name := "a", uid := some "0001" } }

/-- That machine as the API server keeps it. -/
def heldMembers : List (String × Json) := [
  ("metadata", .obj [("name", .str "m"), ("namespace", .str "lab")]),
  ("spec", .obj [("serverRef", .obj [("name", .str "a"), ("uid", .str "0001")])])]

/-- The same machine, sent to another server by name alone. -/
def sentByName : MetalMachine :=
  { heldByIdentifier with spec := { serverRef := some (Reference.ofName "b") } }

/-- A class that selects a rack. -/
def rackClass : ServerClass where
  metadata := { name := some "pool" }
  spec := { selector := some { matchLabels := Dict.empty.insert "rack" "7" } }

/-- That class as the API server keeps it. -/
def rackMembers : List (String × Json) := [
  ("metadata", .obj [("name", .str "pool")]),
  ("spec", .obj [("selector", .obj [("matchLabels", .obj [("rack", .str "7")])])])]

/-- A filter that selects a zone instead. -/
def zoneSpec : ServerClassSpec where
  selector := some { matchLabels := Dict.empty.insert "zone" "east" }

end Laboratory

/-- A machine that is sent to another server by name alone is read back with the identifier of the
first one, and a class that is to select by zone selects by rack as well. -/
theorem spec_patches_overlay_sent :
    (∃ patch,
      (∀ react, (Api.perform none (.updateMetalMachine Laboratory.sentByName)).sent react = [{
        method := .patch
        path := "/apis/infrastructure.cluster.x-k8s.io/v1alpha3/namespaces/lab/metalmachines/m"
        content := some (.mergePatch patch) }]) ∧
      MetalMachine.read? ((Json.obj Laboratory.heldMembers).mergePatch patch) = some
        { Laboratory.heldByIdentifier with
          metadata := Laboratory.heldByIdentifier.metadata.guardedBy Laboratory.sentByName.metadata
          spec := Laboratory.sentByName.spec.upon
            ((Json.obj Laboratory.heldMembers).target "spec") }) ∧
    ∃ patch,
      (∀ react, (Api.perform none (.updateServerClassSpec "pool" Laboratory.zoneSpec)).sent react =
        [{
          method := .patch
          path := "/apis/metal.dcops.microscaler.io/v1alpha1/serverclasses/pool"
          content := some (.mergePatch patch) }]) ∧
      ServerClass.read? ((Json.obj Laboratory.rackMembers).mergePatch patch) = some
        { Laboratory.rackClass with
          spec := Laboratory.zoneSpec.upon ((Json.obj Laboratory.rackMembers).target "spec") } := by
  have reads : MetalMachine.read? (.obj Laboratory.heldMembers) =
      some Laboratory.heldByIdentifier := rfl
  have reads_class : ServerClass.read? (.obj Laboratory.rackMembers) =
      some Laboratory.rackClass := rfl
  obtain ⟨patches, overlaid, -⟩ :=
    (spec_patches_overlay none Laboratory.heldMembers).1 _ Laboratory.sentByName reads
  obtain ⟨patches_class, overlaid_class, -⟩ :=
    (spec_patches_overlay none Laboratory.rackMembers).2 _ "pool" Laboratory.zoneSpec reads_class
  exact ⟨⟨_, patches.sends_at (by decide) (by decide +kernel), overlaid⟩,
    _, patches_class.sends_at (by decide) (by decide +kernel), overlaid_class⟩

/-- What is read back is not what was sent. -/
theorem spec_patch_keeps_identifier :
    MetalMachine.read? (.obj Laboratory.heldMembers) = some Laboratory.heldByIdentifier ∧
    ∃ patch,
      (∀ react, (Api.perform none (.updateMetalMachine Laboratory.sentByName)).sent react = [{
        method := .patch
        path := "/apis/infrastructure.cluster.x-k8s.io/v1alpha3/namespaces/lab/metalmachines/m"
        content := some (.mergePatch patch) }]) ∧
      (MetalMachine.read? ((Json.obj Laboratory.heldMembers).mergePatch patch)).map
        MetalMachine.spec = some { serverRef := some { name := "b", uid := some "0001" } } ∧
      Laboratory.sentByName.spec = { serverRef := some { name := "b", uid := none } } := by
  have sends := (Api.patches_updateMetalMachine none Laboratory.sentByName).sends_at (by decide)
    (by decide +kernel)
  exact ⟨rfl, _, sends, by decide, rfl⟩

end BareMetal
