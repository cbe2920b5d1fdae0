import BareMetal.Store.Memory

/-!
# What writes do to the store

A write is refused and leaves the store as it is, or it replaces one object by a copy that carries
the next version number.  Each write has a relation that names its cases.  Writes of servers and
classes leave all claims alone.
-/

namespace BareMetal.Store

/-! ## Frames -/

/-- Bindings and metal machines are the same, and no version number was taken back. -/
structure LeavesClaims (before after : Store) : Prop where
  /-- No binding was touched. -/
  serverBindings : after.serverBindings = before.serverBindings
  /-- No metal machine was touched. -/
  metalMachines : after.metalMachines = before.metalMachines
  /-- Version numbers ascend. -/
  version : before.version ≤ after.version

theorem LeavesClaims.refl (store : Store) : LeavesClaims store store :=
  ⟨rfl, rfl, Nat.le_refl _⟩

theorem leavesClaims_createServerClass (store : Store) (serverClass : ServerClass) :
    LeavesClaims store (store.createServerClass serverClass).2 := by
  unfold createServerClass
  dsimp only
  split
  · exact .refl store
  · exact ⟨rfl, rfl, Nat.le_succ _⟩

theorem leavesClaims_changeServerClass (store : Store) (name : String)
    (change : ServerClass → ServerClass) :
    LeavesClaims store (store.changeServerClass name change).2 := by
  unfold changeServerClass
  split
  · exact .refl store
  · exact ⟨rfl, rfl, Nat.le_succ _⟩

/-! ## Bindings -/

/-- A binding as the store keeps it once it is created. -/
def createdBinding (store : Store) (binding : ServerBinding) : ServerBinding :=
  { binding with
    metadata.resourceVersion := some store.nextVersion
    metadata.uid := some (Text.uuid store.nextUid) }

/-- The store after a binding was created. -/
def withCreated (store : Store) (binding : ServerBinding) : Store :=
  { store with
    version := store.version + 1
    nextUid := store.nextUid + 1
    bindingCreates := store.bindingCreates + 1
    serverBindings :=
      store.serverBindings.insert (binding.metadata.name.getD "") (store.createdBinding binding) }

/-- What comes of creating a binding. -/
inductive Creation (store : Store) (binding : ServerBinding) :
    Except StoreError ServerBinding → Store → Prop
  /-- Creating bindings is refused. -/
  | refused {message : String} (fails : store.createFailure = some message) :
      Creation store binding (.error (.invalidRequest message)) store
  /-- A binding of the name is there. -/
  | taken {present : ServerBinding}
      (found : store.serverBindings.get? (binding.metadata.name.getD "") = some present)
      (what : String) : Creation store binding (.error (.alreadyExists what)) store
  /-- The name was free and is taken now. -/
  | created (free : store.serverBindings.get? (binding.metadata.name.getD "") = none) :
      Creation store binding (.ok (store.createdBinding binding)) (store.withCreated binding)

theorem createServerBinding_eq (store : Store) (binding : ServerBinding) :
    store.createServerBinding binding =
      match store.createFailure with
      | some message => (.error (.invalidRequest message), store)
      | none =>
          if store.serverBindings.contains (binding.metadata.name.getD "") then
            (.error (.alreadyExists ("ServerBinding " ++ binding.metadata.name.getD "")), store)
          else (.ok (store.createdBinding binding), store.withCreated binding) :=
  rfl

theorem createServerBinding_of_free {store : Store} (binding : ServerBinding)
    (accepts : store.createFailure = none)
    (free : store.serverBindings.get? (binding.metadata.name.getD "") = none) :
    store.createServerBinding binding =
      (.ok (store.createdBinding binding), store.withCreated binding) := by
  rw [createServerBinding_eq, accepts]
  exact if_neg (by simp [Dict.contains, free])

theorem createServerBinding_of_refused {store : Store} {message : String}
    (refuses : store.createFailure = some message) (binding : ServerBinding) :
    store.createServerBinding binding = (.error (.invalidRequest message), store) := by
  rw [createServerBinding_eq, refuses]

theorem createServerBinding_of_taken {store : Store} {binding present : ServerBinding}
    (accepts : store.createFailure = none)
    (taken : store.serverBindings.get? (binding.metadata.name.getD "") = some present) :
    store.createServerBinding binding =
      (.error (.alreadyExists ("ServerBinding " ++ binding.metadata.name.getD "")), store) := by
  rw [createServerBinding_eq, accepts]
  exact if_pos (by simp [Dict.contains, taken])

theorem creation (store : Store) (binding : ServerBinding) :
    Creation store binding (store.createServerBinding binding).1
      (store.createServerBinding binding).2 := by
  rw [createServerBinding_eq]
  split
  · exact .refused ‹_›
  · split
    · rename_i present
      obtain ⟨other, found⟩ := Dict.contains_iff.1 present
      exact .taken found _
    · rename_i absent
      exact .created (by simpa [Dict.contains] using absent)

/-- A binding that is there after a creation was there before or is the new one. -/
theorem Creation.of_get? {store after : Store} {binding present : ServerBinding}
    {reply : Except StoreError ServerBinding} {name : String}
    (creation : Creation store binding reply after)
    (found : after.serverBindings.get? name = some present) :
    store.serverBindings.get? name = some present ∨
      binding.metadata.name.getD "" = name ∧
        present.metadata.name = binding.metadata.name ∧ present.spec = binding.spec := by
  cases creation with
  | refused | taken => exact .inl found
  | created free =>
      rcases Dict.get?_insert_eq_some.1 found with ⟨rfl, rfl⟩ | ⟨_, found⟩
      · exact .inr ⟨rfl, rfl, rfl⟩
      · exact .inl found

/-- The store after a binding was replaced by a changed copy. -/
def withBinding (store : Store) (name : String) (binding : ServerBinding) : Store :=
  { store with
    version := store.version + 1
    serverBindings := store.serverBindings.insert name binding }

/-- A binding with another status, as the store keeps it. -/
def bindingWithStatus (store : Store) (binding : ServerBinding) (status : ServerBindingStatus) :
    ServerBinding :=
  { binding with metadata.resourceVersion := some store.nextVersion, status := some status }

/-- What comes of changing the status of a binding. -/
inductive BindingStatusChange (store : Store) (name : String) (status : ServerBindingStatus) :
    Except StoreError Unit → Store → Prop
  /-- The binding is gone. -/
  | gone (what : String) : BindingStatusChange store name status (.error (.notFound what)) store
  /-- The status is written. -/
  | changed {binding : ServerBinding} (found : store.serverBindings.get? name = some binding) :
      BindingStatusChange store name status (.ok ())
        (store.withBinding name (store.bindingWithStatus binding status))

theorem bindingStatusChange (store : Store) (name : String) (status : ServerBindingStatus) :
    BindingStatusChange store name status (store.updateServerBindingStatus name status).1
      (store.updateServerBindingStatus name status).2 := by
  unfold updateServerBindingStatus
  cases found : store.serverBindings.get? name with
  | none => exact .gone _
  | some binding => exact .changed found

/-- A change of status leaves the name and the request of every binding. -/
theorem BindingStatusChange.of_get? {store after : Store} {changed name : String}
    {status : ServerBindingStatus} {reply : Except StoreError Unit} {present : ServerBinding}
    (change : BindingStatusChange store changed status reply after)
    (found : after.serverBindings.get? name = some present) :
    ∃ binding, store.serverBindings.get? name = some binding ∧
      present.metadata.name = binding.metadata.name ∧ present.spec = binding.spec := by
  cases change with
  | gone => exact ⟨present, found, rfl, rfl⟩
  | changed found_before =>
      rcases Dict.get?_insert_eq_some.1 found with ⟨rfl, rfl⟩ | ⟨_, found⟩
      · exact ⟨_, found_before, rfl, rfl⟩
      · exact ⟨present, found, rfl, rfl⟩

/-! ## Metal machines -/

/-- The store after a write of its machines. -/
def withMachines (store : Store) (machines : Dict ObjectKey MetalMachine) : Store :=
  { store with version := store.version + 1, metalMachines := machines }

/-- The store after a machine was replaced by a changed copy. -/
def withMachine (store : Store) (key : ObjectKey) (machine : MetalMachine) : Store :=
  store.withMachines (store.metalMachines.insert key machine)

/-- The store after a machine went with its last finalizer. -/
def withoutMachine (store : Store) (key : ObjectKey) : Store :=
  store.withMachines (store.metalMachines.erase key)

/-- A stored machine with the finalizers and the request of a copy of it. -/
def updatedMachine (store : Store) (stored machine : MetalMachine) : MetalMachine :=
  { stored with
    metadata.finalizers := machine.metadata.finalizers
    metadata.resourceVersion := some store.nextVersion
    spec := machine.spec }

theorem isStale_self (machine : MetalMachine) :
    isStale machine machine.metadata.resourceVersion = false := by
  unfold isStale
  cases machine.metadata.resourceVersion <;> simp

/-- A write that is guarded by a version meets the machine of that version. -/
theorem resourceVersion_of_not_isStale {stored : MetalMachine} {version : Option String}
    (current : isStale stored version = false) (given : version.isSome = true) :
    stored.metadata.resourceVersion = version := by
  obtain ⟨text, rfl⟩ := Option.isSome_iff_exists.1 given
  simpa [isStale] using current

/-- What comes of changing the finalizers and the request of a machine. -/
inductive MachineChange (store : Store) (machine : MetalMachine) :
    Except StoreError MetalMachine → Store → Prop
  /-- The machine is gone. -/
  | gone (absent : store.metalMachines.get? machine.key = none) (what : String) :
      MachineChange store machine (.error (.notFound what)) store
  /-- The machine changed since it was read. -/
  | stale {stored : MetalMachine} (found : store.metalMachines.get? machine.key = some stored)
      (changed : isStale stored machine.metadata.resourceVersion = true) (what : String) :
      MachineChange store machine (.error (.conflict what)) store
  /-- The machine goes with its last finalizer. -/
  | removed {stored : MetalMachine} (found : store.metalMachines.get? machine.key = some stored)
      (current : isStale stored machine.metadata.resourceVersion = false)
      (released : isReleased (store.updatedMachine stored machine) = true) :
      MachineChange store machine (.ok (store.updatedMachine stored machine))
        (store.withoutMachine machine.key)
  /-- The machine is written. -/
  | written {stored : MetalMachine} (found : store.metalMachines.get? machine.key = some stored)
      (current : isStale stored machine.metadata.resourceVersion = false)
      (stays : isReleased (store.updatedMachine stored machine) = false) :
      MachineChange store machine (.ok (store.updatedMachine stored machine))
        (store.withMachine machine.key (store.updatedMachine stored machine))

theorem updateMetalMachine_eq (store : Store) (machine : MetalMachine) :
    store.updateMetalMachine machine =
      match store.metalMachines.get? machine.key with
      | none => (.error (.notFound ("MetalMachine " ++ machine.key.display)), store)
      | some stored =>
          if isStale stored machine.metadata.resourceVersion then
            (.error (.conflict ("MetalMachine " ++ machine.key.display)), store)
          else
            (.ok (store.updatedMachine stored machine), store.withMachines
              (if isReleased (store.updatedMachine stored machine) then
                store.metalMachines.erase machine.key
              else
                store.metalMachines.insert machine.key (store.updatedMachine stored machine))) :=
  rfl

theorem machineChange (store : Store) (machine : MetalMachine) :
    MachineChange store machine (store.updateMetalMachine machine).1
      (store.updateMetalMachine machine).2 := by
  rw [updateMetalMachine_eq]
  split
  · exact .gone ‹_› _
  · rename_i stored found
    split
    · exact .stale found ‹_› _
    · rename_i current
      have current := Bool.eq_false_iff.2 current
      dsimp only
      split
      · exact .removed found current ‹_›
      · rename_i stays
        exact .written found current (Bool.eq_false_iff.2 stays)

theorem MachineChange.serverBindings {store after : Store} {machine : MetalMachine}
    {reply : Except StoreError MetalMachine} (change : MachineChange store machine reply after) :
    after.serverBindings = store.serverBindings := by
  cases change <;> rfl

/-- A machine with another status, as the store keeps it. -/
def machineWithStatus (store : Store) (machine : MetalMachine) (status : MetalMachineStatus) :
    MetalMachine :=
  { machine with metadata.resourceVersion := some store.nextVersion, status := some status }

/-- What comes of changing the status of a machine. -/
inductive MachineStatusChange (store : Store) (key : ObjectKey) (status : MetalMachineStatus) :
    Except StoreError Unit → Store → Prop
  /-- The machine is gone. -/
  | gone (absent : store.metalMachines.get? key = none) (what : String) :
      MachineStatusChange store key status (.error (.notFound what)) store
  /-- The status is written. -/
  | changed {machine : MetalMachine} (found : store.metalMachines.get? key = some machine) :
      MachineStatusChange store key status (.ok ())
        (store.withMachine key (store.machineWithStatus machine status))

theorem machineStatusChange (store : Store) (key : ObjectKey) (status : MetalMachineStatus) :
    MachineStatusChange store key status (store.updateMetalMachineStatus key status).1
      (store.updateMetalMachineStatus key status).2 := by
  unfold updateMetalMachineStatus
  cases found : store.metalMachines.get? key with
  | none => exact .gone found _
  | some machine => exact .changed found

theorem MachineStatusChange.serverBindings {store after : Store} {key : ObjectKey}
    {status : MetalMachineStatus} {reply : Except StoreError Unit}
    (change : MachineStatusChange store key status reply after) :
    after.serverBindings = store.serverBindings := by
  cases change <;> rfl

/-! ## Calls that leave bindings alone -/

/-- Whether a call may change a binding. -/
def writesBindings : StoreCall → Bool
  | .createServerBinding _ | .deleteServerBinding _ | .updateServerBindingStatus _ _ => true
  | _ => false

theorem perform_serverBindings (store : Store) {call : StoreCall}
    (reads : writesBindings call = false) :
    (store.perform call).2.serverBindings = store.serverBindings := by
  cases call with
  | createServerBinding | deleteServerBinding | updateServerBindingStatus => exact nomatch reads
  | createServerClass serverClass =>
      exact (leavesClaims_createServerClass store serverClass).serverBindings
  | updateServerClassSpec name spec =>
      exact (leavesClaims_changeServerClass store name _).serverBindings
  | updateServerClassStatus name status =>
      exact (leavesClaims_changeServerClass store name _).serverBindings
  | updateMetalMachine machine => exact (store.machineChange machine).serverBindings
  | updateMetalMachineStatus key status =>
      exact (store.machineStatusChange key status).serverBindings
  | _ => rfl

/-- A binding that a call leaves was there before, or it is the one that the call created. -/
theorem perform_of_get? {store : Store} {call : StoreCall} {name : String}
    {present : ServerBinding}
    (found : (store.perform call).2.serverBindings.get? name = some present) :
    (∃ old, store.serverBindings.get? name = some old ∧
      present.metadata.name = old.metadata.name ∧ present.spec = old.spec) ∨
    ∃ binding, call = .createServerBinding binding ∧ binding.metadata.name.getD "" = name ∧
      present.metadata.name = binding.metadata.name ∧ present.spec = binding.spec := by
  cases writes : writesBindings call with
  | false =>
      rw [store.perform_serverBindings writes] at found
      exact .inl ⟨present, found, rfl, rfl⟩
  | true =>
      cases call with
      | deleteServerBinding deleted =>
          exact .inl ⟨present, (Dict.get?_erase_eq_some.1 found).2, rfl, rfl⟩
      | createServerBinding binding =>
          rcases (store.creation binding).of_get? found with old | created
          · exact .inl ⟨present, old, rfl, rfl⟩
          · exact .inr ⟨binding, rfl, created⟩
      | updateServerBindingStatus changed status =>
          exact .inl ((store.bindingStatusChange changed status).of_get? found)
      | _ => exact nomatch writes

/-! ## Machines that a call leaves -/

/-- The machine that a store keeps after a write is the object that it was. -/
structure SameObject (old present : MetalMachine) : Prop where
  /-- Its name is the same. -/
  name_eq : present.metadata.name = old.metadata.name
  /-- Its key is the same. -/
  key_eq : present.key = old.key
  /-- It was marked for deletion if it is. -/
  isDeleting_eq : present.isDeleting = old.isDeleting

theorem SameObject.refl (machine : MetalMachine) : SameObject machine machine := ⟨rfl, rfl, rfl⟩

theorem Creation.metalMachines {store after : Store} {binding : ServerBinding}
    {reply : Except StoreError ServerBinding} (creation : Creation store binding reply after) :
    after.metalMachines = store.metalMachines := by
  cases creation <;> rfl

theorem BindingStatusChange.metalMachines {store after : Store} {name : String}
    {status : ServerBindingStatus} {reply : Except StoreError Unit}
    (change : BindingStatusChange store name status reply after) :
    after.metalMachines = store.metalMachines := by
  cases change <;> rfl

theorem MachineChange.of_get? {store after : Store} {copy present : MetalMachine}
    {reply : Except StoreError MetalMachine} {key : ObjectKey}
    (change : MachineChange store copy reply after)
    (found : after.metalMachines.get? key = some present) :
    ∃ old, store.metalMachines.get? key = some old ∧ SameObject old present ∧
      (present.spec = old.spec ∨ copy.key = key ∧ present.spec = copy.spec) := by
  cases change with
  | gone | stale => exact ⟨present, found, .refl present, .inl rfl⟩
  | removed => exact ⟨present, (Dict.get?_erase_eq_some.1 found).2, .refl present, .inl rfl⟩
  | written found_before =>
      rcases Dict.get?_insert_eq_some.1 found with ⟨rfl, rfl⟩ | ⟨_, found⟩
      · exact ⟨_, found_before, ⟨rfl, rfl, rfl⟩, .inr ⟨rfl, rfl⟩⟩
      · exact ⟨present, found, .refl present, .inl rfl⟩

theorem MachineStatusChange.of_get? {store after : Store} {changed key : ObjectKey}
    {status : MetalMachineStatus} {reply : Except StoreError Unit} {present : MetalMachine}
    (change : MachineStatusChange store changed status reply after)
    (found : after.metalMachines.get? key = some present) :
    ∃ old, store.metalMachines.get? key = some old ∧ SameObject old present ∧
      present.spec = old.spec := by
  cases change with
  | gone => exact ⟨present, found, .refl present, rfl⟩
  | changed found_before =>
      rcases Dict.get?_insert_eq_some.1 found with ⟨rfl, rfl⟩ | ⟨_, found⟩
      · exact ⟨_, found_before, ⟨rfl, rfl, rfl⟩, rfl⟩
      · exact ⟨present, found, .refl present, rfl⟩

/-- Whether a call may change a metal machine. -/
def writesMachines : StoreCall → Bool
  | .updateMetalMachine _ | .updateMetalMachineStatus _ _ => true
  | _ => false

theorem perform_metalMachines (store : Store) {call : StoreCall}
    (reads : writesMachines call = false) :
    (store.perform call).2.metalMachines = store.metalMachines := by
  cases call with
  | updateMetalMachine | updateMetalMachineStatus => exact nomatch reads
  | createServerClass serverClass =>
      exact (leavesClaims_createServerClass store serverClass).metalMachines
  | updateServerClassSpec name spec =>
      exact (leavesClaims_changeServerClass store name _).metalMachines
  | updateServerClassStatus name status =>
      exact (leavesClaims_changeServerClass store name _).metalMachines
  | createServerBinding binding => exact (store.creation binding).metalMachines
  | updateServerBindingStatus name status =>
      exact (store.bindingStatusChange name status).metalMachines
  | _ => rfl

/-- A metal machine that a call leaves was there before, and asks for what it asked unless the call
wrote it. -/
theorem perform_machine_of_get? {store : Store} {call : StoreCall} {key : ObjectKey}
    {present : MetalMachine}
    (found : (store.perform call).2.metalMachines.get? key = some present) :
    ∃ old, store.metalMachines.get? key = some old ∧ SameObject old present ∧
      (present.spec = old.spec ∨
        ∃ copy, call = .updateMetalMachine copy ∧ copy.key = key ∧ present.spec = copy.spec) := by
  cases writes : writesMachines call with
  | false =>
      rw [store.perform_metalMachines writes] at found
      exact ⟨present, found, .refl present, .inl rfl⟩
  | true =>
      cases call with
      | updateMetalMachine copy =>
          obtain ⟨old, found_old, same, spec⟩ := (store.machineChange copy).of_get? found
          exact ⟨old, found_old, same, spec.imp_right fun wrote => ⟨copy, rfl, wrote⟩⟩
      | updateMetalMachineStatus changed status =>
          obtain ⟨old, found_old, same, spec⟩ := (store.machineStatusChange changed status).of_get?
            found
          exact ⟨old, found_old, same, .inl spec⟩
      | _ => exact nomatch writes

end BareMetal.Store
