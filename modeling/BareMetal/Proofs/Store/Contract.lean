import BareMetal.Proofs.Store.Versions

/-!
# What the store promises

Passes trust the store: what lies under a name or key has that name or key, a call that fails does
nothing, a call that succeeds touches no object but the one that it is about, and each answer tells
what is there.  The promises are stated in terms of look-ups, so that another store could make them
as well, and the store in memory keeps them in every state that operations lead to.
-/

namespace BareMetal

open Store

/-! ## Objects under their own names -/

section

variable {κ υ : Type} [Ord κ] {dict : Dict κ υ} {keyOf : υ → κ}

/-- Every value lies under the key that it tells itself. -/
def Dict.KeyedBy (dict : Dict κ υ) (keyOf : υ → κ) : Prop :=
  ∀ key value, dict.get? key = some value → keyOf value = key

namespace Dict.KeyedBy

theorem empty : (Dict.empty : Dict κ υ).KeyedBy keyOf := nofun

variable [Std.LawfulEqOrd κ]

theorem insert [Std.TransOrd κ] (kept : dict.KeyedBy keyOf) {key : κ} {value : υ}
    (keyed : keyOf value = key) : (dict.insert key value).KeyedBy keyOf := by
  intro other found present
  rcases Dict.get?_insert_eq_some.1 present with ⟨rfl, rfl⟩ | ⟨_, before⟩
  · exact keyed
  · exact kept other found before

theorem erase (kept : dict.KeyedBy keyOf) (key : κ) : (dict.erase key).KeyedBy keyOf := by
  intro other found present
  exact kept other found (Dict.get?_erase_eq_some.1 present).2

end Dict.KeyedBy

/-- A list holds the objects of a dictionary that meet a condition, each once and in the order of
their keys. -/
structure Dict.Lists (dict : Dict κ υ) (keyOf : υ → κ) (meets : υ → Prop) (values : List υ) :
    Prop where
  /-- These objects and no others are in the list. -/
  mem_iff : ∀ value, value ∈ values ↔ dict.get? (keyOf value) = some value ∧ meets value
  /-- Their keys ascend. -/
  ascending : (values.map keyOf).Pairwise fun earlier later => compare earlier later = .lt

namespace Dict.KeyedBy

variable [Std.LawfulEqOrd κ]

theorem lists_values (kept : dict.KeyedBy keyOf) :
    dict.Lists keyOf (fun _ => True) dict.values where
  mem_iff value := by
    simp only [Dict.mem_values, and_true]
    constructor
    · rintro ⟨key, found⟩
      rwa [kept key value found]
    · exact fun found => ⟨keyOf value, found⟩
  ascending := by
    rw [Dict.map_values_eq_keys kept, Dict.keys, List.pairwise_map]
    exact dict.ascending

theorem lists_filter (kept : dict.KeyedBy keyOf) {keep : υ → Bool} {meets : υ → Prop}
    (decides : ∀ value, keep value = true ↔ meets value) :
    dict.Lists keyOf meets (dict.values.filter keep) where
  mem_iff value := by simp [kept.lists_values.mem_iff, decides]
  ascending := kept.lists_values.ascending.sublist (List.filter_sublist.map keyOf)

end Dict.KeyedBy

end

/-- All objects of a store lie under the names or keys that their metadata tell. -/
structure Store.IsKeyed (store : Store) : Prop where
  /-- Servers lie under their names. -/
  servers : store.servers.KeyedBy fun server => server.metadata.name.getD ""
  /-- Classes lie under their names. -/
  serverClasses : store.serverClasses.KeyedBy fun serverClass => serverClass.metadata.name.getD ""
  /-- Bindings lie under their names. -/
  serverBindings : store.serverBindings.KeyedBy fun binding => binding.metadata.name.getD ""
  /-- Metal machines lie under their keys. -/
  metalMachines : store.metalMachines.KeyedBy fun machine => machine.metadata.key
  /-- Owner machines lie under their keys. -/
  machines : store.machines.KeyedBy fun machine => machine.metadata.key
  /-- Clusters lie under their keys. -/
  clusters : store.clusters.KeyedBy fun cluster => cluster.metadata.key

namespace Store.IsKeyed

variable {store : Store}

theorem empty : IsKeyed {} := ⟨.empty, .empty, .empty, .empty, .empty, .empty⟩

theorem addMetalMachine (kept : store.IsKeyed) (machine : MetalMachine) :
    (store.addMetalMachine machine).IsKeyed := by
  unfold Store.addMetalMachine
  dsimp only
  split <;> exact { kept with metalMachines := kept.metalMachines.insert rfl }

theorem changeServerClass (kept : store.IsKeyed) (name : String)
    (change : ServerClass → ServerClass) : (store.changeServerClass name change).2.IsKeyed := by
  unfold Store.changeServerClass
  split
  · exact kept
  · rename_i present found
    exact { kept with
      serverClasses := kept.serverClasses.insert (kept.serverClasses name present found) }

/-- Every call leaves the objects under their own names. -/
theorem perform (kept : store.IsKeyed) (call : StoreCall) : (store.perform call).2.IsKeyed := by
  cases call with
  | createServerClass serverClass =>
      simp only [Store.perform, createServerClass]
      split
      · exact kept
      · exact { kept with serverClasses := kept.serverClasses.insert rfl }
  | updateServerClassSpec name spec => exact kept.changeServerClass name _
  | updateServerClassStatus name status => exact kept.changeServerClass name _
  | createServerBinding binding =>
      simp only [Store.perform, createServerBinding_eq]
      split
      · exact kept
      · split
        · exact kept
        · exact { kept with serverBindings := kept.serverBindings.insert rfl }
  | deleteServerBinding name => exact { kept with serverBindings := kept.serverBindings.erase name }
  | updateServerBindingStatus name status =>
      simp only [Store.perform, updateServerBindingStatus]
      split
      · exact kept
      · rename_i present found
        exact { kept with
          serverBindings := kept.serverBindings.insert (kept.serverBindings name present found) }
  | updateMetalMachine machine =>
      simp only [Store.perform, updateMetalMachine_eq]
      split
      · exact kept
      · rename_i stored found
        split
        · exact kept
        · refine { kept with metalMachines := ?_ }
          change (if _ then _ else _ : Dict ObjectKey MetalMachine).KeyedBy _
          split
          · exact kept.metalMachines.erase machine.key
          · exact kept.metalMachines.insert (kept.metalMachines machine.key stored found)
  | updateMetalMachineStatus key status =>
      simp only [Store.perform, updateMetalMachineStatus]
      split
      · exact kept
      · rename_i present found
        exact { kept with
          metalMachines := kept.metalMachines.insert (kept.metalMachines key present found) }
  | _ => exact kept

/-- Every operation leaves the objects under their own names. -/
theorem on (kept : store.IsKeyed) (operation : Operation) : (operation.on store).IsKeyed := by
  cases operation with
  | addServer server => exact { kept with servers := kept.servers.insert rfl }
  | removeServer name => exact { kept with servers := kept.servers.erase name }
  | addServerClass serverClass =>
      exact { kept with serverClasses := kept.serverClasses.insert rfl }
  | addServerBinding binding =>
      exact { kept with serverBindings := kept.serverBindings.insert rfl }
  | addMetalMachine machine => exact kept.addMetalMachine machine
  | addMachine machine => exact { kept with machines := kept.machines.insert rfl }
  | addCluster cluster => exact { kept with clusters := kept.clusters.insert rfl }
  | failBindingCreates message => exact { kept with }
  | look => exact kept
  | call storeCall => exact kept.perform storeCall

theorem afterAll (kept : store.IsKeyed) (operations : List Operation) :
    (store.afterAll operations).IsKeyed := by
  induction operations generalizing store with
  | nil => exact kept
  | cons operation rest ih => exact ih (kept.on operation)

end Store.IsKeyed

/-! ## What calls promise -/

/-- Where the object lies that a call may touch; calls that only look touch none. -/
def StoreCall.addressed? : StoreCall → Option Place
  | createServerClass serverClass => some (.serverClass (serverClass.metadata.name.getD ""))
  | updateServerClassSpec name _ => some (.serverClass name)
  | updateServerClassStatus name _ => some (.serverClass name)
  | createServerBinding binding => some (.serverBinding (binding.metadata.name.getD ""))
  | deleteServerBinding name => some (.serverBinding name)
  | updateServerBindingStatus name _ => some (.serverBinding name)
  | updateMetalMachine machine => some (.metalMachine machine.metadata.key)
  | updateMetalMachineStatus key _ => some (.metalMachine key)
  | getServer _ | listServers | getServerClass _ | listServerClasses | getServerBinding _
  | listServerBindings | getMetalMachine _ | listMetalMachines | getMachine _ | getCluster _ => none

/-- No object was touched except perhaps the one at a place. -/
structure Store.TouchesOnly (store : Store) (place : Option Place) (after : Store) : Prop where
  /-- No server was touched. -/
  servers : after.servers = store.servers
  /-- No class at another place was touched. -/
  serverClasses : ∀ name, place ≠ some (.serverClass name) →
    after.serverClasses.get? name = store.serverClasses.get? name
  /-- No binding at another place was touched. -/
  serverBindings : ∀ name, place ≠ some (.serverBinding name) →
    after.serverBindings.get? name = store.serverBindings.get? name
  /-- No metal machine at another place was touched. -/
  metalMachines : ∀ key, place ≠ some (.metalMachine key) →
    after.metalMachines.get? key = store.metalMachines.get? key
  /-- No owner machine was touched. -/
  machines : after.machines = store.machines
  /-- No cluster was touched. -/
  clusters : after.clusters = store.clusters
  /-- Bindings are created, or refused, as before. -/
  createFailure : after.createFailure = store.createFailure

/-- A request for one object is answered with the object, or with an error that names it if it is
not there. -/
structure GivesObject {α : Type} (what : String) (stored : Option α) (reply : Except StoreError α) :
    Prop where
  /-- What is given is what is there. -/
  ok_iff : ∀ object, reply = .ok object ↔ stored = some object
  /-- Nothing else is an error. -/
  error_iff : ∀ error, reply = .error error ↔ stored = none ∧ error = .notFound what

/-- An object is created if there is none of its identity. -/
structure CreatesObject {α : Type} (what : String) (stored later : Option α) (created : α)
    (reply : Except StoreError α) : Prop where
  /-- The identity is taken. -/
  taken : ∀ present, stored = some present → reply = .error (.alreadyExists what)
  /-- The identity is free. -/
  free : stored = none → reply = .ok created ∧ later = some created

/-- An object is changed if it is there. -/
structure ChangesObject {α : Type} (what : String) (stored later : Option α) (change : α → α)
    (reply : Except StoreError Unit) : Prop where
  /-- It is not there. -/
  gone : stored = none → reply = .error (.notFound what)
  /-- It is there. -/
  changed : ∀ present, stored = some present → reply = .ok () ∧ later = some (change present)

/-- A machine gets the finalizers and the request of a copy, which tells what version it was taken
of, and goes if it is marked for deletion and has no finalizer left. -/
structure UpdatesMachine (version : String) (machine : MetalMachine)
    (stored later : Option MetalMachine) (reply : Except StoreError MetalMachine) : Prop where
  /-- The machine is not there. -/
  gone : stored = none →
    reply = .error (.notFound ("MetalMachine " ++ machine.metadata.key.display))
  /-- The machine has another version than the copy. -/
  stale : ∀ present expected, stored = some present →
    machine.metadata.resourceVersion = some expected →
    present.metadata.resourceVersion ≠ some expected →
    reply = .error (.conflict ("MetalMachine " ++ machine.metadata.key.display))
  /-- The machine has the version of the copy, or the copy tells none. -/
  current : ∀ present, stored = some present →
    (∀ expected, machine.metadata.resourceVersion = some expected →
      present.metadata.resourceVersion = some expected) →
    let updated : MetalMachine := { present with
      metadata.finalizers := machine.metadata.finalizers
      metadata.resourceVersion := some version
      spec := machine.spec }
    reply = .ok updated ∧ later =
      if updated.metadata.deletionTimestamp.isSome ∧ updated.metadata.finalizers.getD [] = [] then
        none
      else some updated

/-- A call is answered from what is there, and does to the object that it addresses what its name
says. -/
def StoreCall.Answers (store after : Store) : (call : StoreCall) → call.Reply → Prop
  | getServer name, reply => GivesObject ("Server " ++ name) (store.servers.get? name) reply
  | listServers, reply => ∃ servers, reply = .ok servers ∧
      store.servers.Lists (fun server => server.metadata.name.getD "") (fun _ => True) servers
  | getServerClass name, reply =>
      GivesObject ("ServerClass " ++ name) (store.serverClasses.get? name) reply
  | listServerClasses, reply => ∃ classes, reply = .ok classes ∧
      store.serverClasses.Lists (fun serverClass => serverClass.metadata.name.getD "")
        (fun _ => True) classes
  | createServerClass serverClass, reply =>
      let name := serverClass.metadata.name.getD ""
      CreatesObject ("ServerClass " ++ name) (store.serverClasses.get? name)
        (after.serverClasses.get? name)
        { serverClass with
          metadata.resourceVersion := some store.nextVersion
          metadata.uid := some (Text.uuid store.nextUid) } reply
  | updateServerClassSpec name spec, reply =>
      ChangesObject ("ServerClass " ++ name) (store.serverClasses.get? name)
        (after.serverClasses.get? name)
        (fun present =>
          { present with spec := spec, metadata.resourceVersion := some store.nextVersion }) reply
  | updateServerClassStatus name status, reply =>
      ChangesObject ("ServerClass " ++ name) (store.serverClasses.get? name)
        (after.serverClasses.get? name)
        (fun present => { present with
          status := some status
          metadata.resourceVersion := some store.nextVersion }) reply
  | getServerBinding name, reply =>
      GivesObject ("ServerBinding " ++ name) (store.serverBindings.get? name) reply
  | listServerBindings, reply => ∃ bindings, reply = .ok bindings ∧
      store.serverBindings.Lists (fun binding => binding.metadata.name.getD "") (fun _ => True)
        bindings ∧
      ∀ machine, store.serverBindings.Lists (fun binding => binding.metadata.name.getD "")
        (fun binding => binding.spec.metalMachineRef.name = machine.name ∧
          binding.spec.metalMachineRef.space.getD "" = machine.space)
        (bindingsOf machine bindings)
  | createServerBinding binding, reply =>
      let name := binding.metadata.name.getD ""
      (∀ message, store.createFailure = some message →
        reply = .error (.invalidRequest message)) ∧
      (store.createFailure = none →
        CreatesObject ("ServerBinding " ++ name) (store.serverBindings.get? name)
          (after.serverBindings.get? name)
          { binding with
            metadata.resourceVersion := some store.nextVersion
            metadata.uid := some (Text.uuid store.nextUid) } reply)
  | deleteServerBinding name, reply => reply = .ok () ∧ after.serverBindings.get? name = none
  | updateServerBindingStatus name status, reply =>
      ChangesObject ("ServerBinding " ++ name) (store.serverBindings.get? name)
        (after.serverBindings.get? name)
        (fun present => { present with
          status := some status
          metadata.resourceVersion := some store.nextVersion }) reply
  | getMetalMachine key, reply =>
      GivesObject ("MetalMachine " ++ key.display) (store.metalMachines.get? key) reply
  | listMetalMachines, reply => ∃ machines, reply = .ok machines ∧
      store.metalMachines.Lists (fun machine => machine.metadata.key) (fun _ => True) machines ∧
      ∀ server, store.metalMachines.Lists (fun machine => machine.metadata.key)
        (fun machine => ∃ reference, machine.spec.serverRef = some reference ∧
          reference.name = server)
        (machinesNaming server machines)
  | updateMetalMachine machine, reply =>
      UpdatesMachine store.nextVersion machine (store.metalMachines.get? machine.metadata.key)
        (after.metalMachines.get? machine.metadata.key) reply
  | updateMetalMachineStatus key status, reply =>
      ChangesObject ("MetalMachine " ++ key.display) (store.metalMachines.get? key)
        (after.metalMachines.get? key)
        (fun present => { present with
          status := some status
          metadata.resourceVersion := some store.nextVersion }) reply
  | getMachine key, reply => GivesObject ("Machine " ++ key.display) (store.machines.get? key) reply
  | getCluster key, reply => GivesObject ("Cluster " ++ key.display) (store.clusters.get? key) reply

/-- What a call promises. -/
structure StoreCall.Promises (store : Store) (call : StoreCall) (reply : call.Reply)
    (after : Store) : Prop where
  /-- A call that fails changes nothing at all. -/
  refused : ∀ error, reply = .error error → after = store
  /-- A call that only looks changes nothing at all. -/
  looked : call.addressed? = none → after = store
  /-- No object is touched but the one that the call addresses. -/
  touches : store.TouchesOnly call.addressed? after
  /-- The reply tells what is there, and what was done. -/
  answers : call.Answers store after reply

/-! ## How promises are kept -/

namespace Store

variable {store : Store}

theorem TouchesOnly.refl (store : Store) (place : Option Place) : store.TouchesOnly place store :=
  ⟨rfl, fun _ _ => rfl, fun _ _ => rfl, fun _ _ => rfl, rfl, rfl, rfl⟩

theorem touchesOnly_serverClasses {classes : Dict String ServerClass} {name : String}
    (others : ∀ other, other ≠ name → classes.get? other = store.serverClasses.get? other)
    (version nextUid : Nat) :
    store.TouchesOnly (some (.serverClass name))
      { store with version, nextUid, serverClasses := classes } where
  servers := rfl
  serverClasses other apart := others other fun same => apart (by rw [same])
  serverBindings _ _ := rfl
  metalMachines _ _ := rfl
  machines := rfl
  clusters := rfl
  createFailure := rfl

theorem touchesOnly_serverBindings {bindings : Dict String ServerBinding} {name : String}
    (others : ∀ other, other ≠ name → bindings.get? other = store.serverBindings.get? other)
    (version nextUid bindingCreates : Nat) :
    store.TouchesOnly (some (.serverBinding name))
      { store with version, nextUid, bindingCreates, serverBindings := bindings } where
  servers := rfl
  serverClasses _ _ := rfl
  serverBindings other apart := others other fun same => apart (by rw [same])
  metalMachines _ _ := rfl
  machines := rfl
  clusters := rfl
  createFailure := rfl

theorem touchesOnly_withMachines {machines : Dict ObjectKey MetalMachine} {key : ObjectKey}
    (others : ∀ other, other ≠ key → machines.get? other = store.metalMachines.get? other) :
    store.TouchesOnly (some (.metalMachine key)) (store.withMachines machines) where
  servers := rfl
  serverClasses _ _ := rfl
  serverBindings _ _ := rfl
  metalMachines other apart := others other fun same => apart (by rw [same])
  machines := rfl
  clusters := rfl
  createFailure := rfl

end Store

theorem givesObject_found {α : Type} (what : String) (stored : Option α) :
    GivesObject what stored (found what stored) := by
  constructor
  · intro object
    cases stored <;> simp [found]
  · intro error
    cases stored <;> simp [found, eq_comm]

theorem ChangesObject.of_none {α : Type} {what : String} {stored later : Option α} {change : α → α}
    (gone : stored = none) : ChangesObject what stored later change (.error (.notFound what)) :=
  ⟨fun _ => rfl, fun present there => by simp [gone] at there⟩

theorem ChangesObject.of_some {α : Type} {what : String} {stored later : Option α} {change : α → α}
    {present : α} (there : stored = some present) (changed : later = some (change present)) :
    ChangesObject what stored later change (.ok ()) where
  gone none := by simp [there] at none
  changed other found := by
    obtain rfl : present = other := Option.some.inj (there.symm.trans found)
    exact ⟨rfl, changed⟩

theorem CreatesObject.of_some {α : Type} {what : String} {stored later : Option α}
    {created present : α} (there : stored = some present) :
    CreatesObject what stored later created (.error (.alreadyExists what)) :=
  ⟨fun _ _ => rfl, fun free => by simp [there] at free⟩

theorem CreatesObject.of_none {α : Type} {what : String} {stored later : Option α} {created : α}
    (free : stored = none) (put : later = some created) :
    CreatesObject what stored later created (.ok created) :=
  ⟨fun _ there => by simp [free] at there, fun _ => ⟨rfl, put⟩⟩

theorem isStale_iff {machine : MetalMachine} {version : Option String} :
    isStale machine version = true ↔
      ∃ expected, version = some expected ∧ machine.metadata.resourceVersion ≠ some expected := by
  cases version <;> simp [isStale]

theorem isReleased_iff {machine : MetalMachine} : isReleased machine = true ↔
    machine.metadata.deletionTimestamp.isSome ∧ machine.metadata.finalizers.getD [] = [] := by
  cases finalizers : machine.metadata.finalizers <;>
    simp [isReleased, MetalMachine.isDeleting, finalizers]

namespace UpdatesMachine

variable {version : String} {machine present : MetalMachine} {stored later : Option MetalMachine}

theorem of_none (gone : stored = none) : UpdatesMachine version machine stored later
    (.error (.notFound ("MetalMachine " ++ machine.metadata.key.display))) where
  gone _ := rfl
  stale other _ found := by simp [gone] at found
  current other found := by simp [gone] at found

theorem of_stale (there : stored = some present)
    (stale : isStale present machine.metadata.resourceVersion = true) :
    UpdatesMachine version machine stored later
      (.error (.conflict ("MetalMachine " ++ machine.metadata.key.display))) where
  gone none := by simp [there] at none
  stale _ _ _ _ _ := rfl
  current other found agrees := by
    obtain rfl : present = other := Option.some.inj (there.symm.trans found)
    obtain ⟨expected, told, differs⟩ := isStale_iff.1 stale
    exact absurd (agrees expected told) differs

theorem of_current (store : Store) (there : stored = some present)
    (current : isStale present machine.metadata.resourceVersion = false) (later_eq : later =
      if isReleased (store.updatedMachine present machine) then none
      else some (store.updatedMachine present machine)) :
    UpdatesMachine store.nextVersion machine stored later
      (.ok (store.updatedMachine present machine)) where
  gone none := by simp [there] at none
  stale other expected found told differs := by
    obtain rfl : present = other := Option.some.inj (there.symm.trans found)
    simp [isStale_iff.2 ⟨expected, told, differs⟩] at current
  current other found agrees := by
    obtain rfl : present = other := Option.some.inj (there.symm.trans found)
    simp only [isReleased_iff] at later_eq
    exact ⟨rfl, later_eq⟩

end UpdatesMachine

namespace StoreCall.Promises

variable {store after : Store} {call : StoreCall}

theorem of_looked {reply : call.Reply} (looks : call.addressed? = none)
    (answers : call.Answers store store reply) : call.Promises store reply store :=
  ⟨fun _ _ => rfl, fun _ => rfl, looks ▸ .refl store none, answers⟩

theorem of_error {error : StoreError} (answers : call.Answers store store (.error error)) :
    call.Promises store (.error error) store :=
  ⟨fun _ _ => rfl, fun _ => rfl, .refl store _, answers⟩

theorem of_ok {result : call.Result} {place : Place} (addressed : call.addressed? = some place)
    (touches : store.TouchesOnly (some place) after)
    (answers : call.Answers store after (.ok result)) :
    call.Promises store (.ok result) after where
  refused _ failed := nomatch failed
  looked looks := by simp [addressed] at looks
  touches := addressed ▸ touches
  answers := answers

end StoreCall.Promises

theorem promises_createServerClass (store : Store) (serverClass : ServerClass) :
    (StoreCall.createServerClass serverClass).Promises store (store.createServerClass serverClass).1
      (store.createServerClass serverClass).2 := by
  cases stored : store.serverClasses.get? (serverClass.metadata.name.getD "") with
  | some present =>
      simp only [Store.createServerClass, Dict.contains, stored, Option.isSome_some, if_true]
      exact .of_error (.of_some stored)
  | none =>
      simp only [Store.createServerClass, Dict.contains, stored, Option.isSome_none]
      apply StoreCall.Promises.of_ok rfl
      · exact touchesOnly_serverClasses (fun _ apart => Dict.get?_insert_of_ne apart _ _) _ _
      · exact .of_none stored (Dict.get?_insert_self _ _ _)

theorem changeServerClass_of_none {store : Store} {name : String}
    (gone : store.serverClasses.get? name = none) (change : ServerClass → ServerClass) :
    store.changeServerClass name change =
      (.error (.notFound ("ServerClass " ++ name)), store) := by
  rw [changeServerClass, gone]

theorem changeServerClass_of_some {store : Store} {name : String} {present : ServerClass}
    (there : store.serverClasses.get? name = some present)
    (change : ServerClass → ServerClass) :
    store.changeServerClass name change = (.ok (), { store with
      version := store.version + 1
      serverClasses := store.serverClasses.insert name { change present with
        metadata := { present.metadata with resourceVersion := some store.nextVersion } } }) := by
  rw [changeServerClass, there]

/-- A change of a class that fails changes nothing, and one that succeeds changes the class. -/
theorem changeServerClass_keeps (store : Store) (name : String)
    (change : ServerClass → ServerClass) :
    let result := store.changeServerClass name change
    (∀ error, result.1 = .error error → result.2 = store) ∧
      store.TouchesOnly (some (.serverClass name)) result.2 ∧
      ChangesObject ("ServerClass " ++ name) (store.serverClasses.get? name)
        (result.2.serverClasses.get? name)
        (fun present => { change present with
          metadata := { present.metadata with resourceVersion := some store.nextVersion } })
        result.1 := by
  intro result
  cases stored : store.serverClasses.get? name with
  | none =>
      have refused : result = _ := changeServerClass_of_none stored change
      rw [refused]
      exact ⟨fun _ _ => rfl, .refl store _, .of_none rfl⟩
  | some present =>
      have changed : result = _ := changeServerClass_of_some stored change
      rw [changed]
      refine ⟨nofun, touchesOnly_serverClasses ?_ _ _, .of_some rfl (Dict.get?_insert_self _ _ _)⟩
      exact fun _ apart => Dict.get?_insert_of_ne apart _ _

theorem promises_createServerBinding (store : Store) (binding : ServerBinding) :
    (StoreCall.createServerBinding binding).Promises store (store.createServerBinding binding).1
      (store.createServerBinding binding).2 := by
  cases refuses : store.createFailure with
  | some message =>
      rw [createServerBinding_of_refused refuses]
      apply StoreCall.Promises.of_error
      exact ⟨fun other same => by simp_all, fun accepts => by simp [refuses] at accepts⟩
  | none =>
      cases stored : store.serverBindings.get? (binding.metadata.name.getD "") with
      | some present =>
          rw [createServerBinding_of_taken refuses stored]
          apply StoreCall.Promises.of_error
          exact ⟨fun _ fails => by simp [refuses] at fails, fun _ => .of_some stored⟩
      | none =>
          rw [createServerBinding_of_free binding refuses stored]
          apply StoreCall.Promises.of_ok rfl
          · exact touchesOnly_serverBindings (fun _ apart => Dict.get?_insert_of_ne apart _ _) _ _ _
          · refine ⟨fun _ fails => by simp [refuses] at fails, fun _ => ?_⟩
            exact .of_none stored (Dict.get?_insert_self _ _ _)

theorem promises_deleteServerBinding (store : Store) (name : String) :
    (StoreCall.deleteServerBinding name).Promises store (.ok ())
      { store with serverBindings := store.serverBindings.erase name } := by
  apply StoreCall.Promises.of_ok rfl
  · exact touchesOnly_serverBindings (fun _ apart => Dict.get?_erase_of_ne apart _) _ _ _
  · exact ⟨rfl, Dict.get?_erase_self _ _⟩

theorem promises_updateServerBindingStatus (store : Store) (name : String)
    (status : ServerBindingStatus) :
    (StoreCall.updateServerBindingStatus name status).Promises store
      (store.updateServerBindingStatus name status).1
      (store.updateServerBindingStatus name status).2 := by
  cases stored : store.serverBindings.get? name with
  | none =>
      simp only [Store.updateServerBindingStatus, stored]
      exact .of_error (.of_none stored)
  | some present =>
      simp only [Store.updateServerBindingStatus, stored]
      apply StoreCall.Promises.of_ok rfl
      · exact touchesOnly_serverBindings (fun _ apart => Dict.get?_insert_of_ne apart _ _) _ _ _
      · exact .of_some stored (Dict.get?_insert_self _ _ _)

theorem promises_updateMetalMachineStatus (store : Store) (key : ObjectKey)
    (status : MetalMachineStatus) :
    (StoreCall.updateMetalMachineStatus key status).Promises store
      (store.updateMetalMachineStatus key status).1
      (store.updateMetalMachineStatus key status).2 := by
  cases stored : store.metalMachines.get? key with
  | none =>
      simp only [Store.updateMetalMachineStatus, stored]
      exact .of_error (.of_none stored)
  | some present =>
      simp only [Store.updateMetalMachineStatus, stored]
      apply StoreCall.Promises.of_ok rfl
      · exact touchesOnly_withMachines fun _ apart => Dict.get?_insert_of_ne apart _ _
      · exact .of_some stored (Dict.get?_insert_self _ _ _)

theorem promises_updateMetalMachine (store : Store) (machine : MetalMachine) :
    (StoreCall.updateMetalMachine machine).Promises store (store.updateMetalMachine machine).1
      (store.updateMetalMachine machine).2 := by
  rw [updateMetalMachine_eq]
  cases stored : store.metalMachines.get? machine.key with
  | none => exact .of_error (UpdatesMachine.of_none stored)
  | some present =>
      cases stale : isStale present machine.metadata.resourceVersion with
      | true =>
          simp only [stale, if_true]
          exact .of_error (UpdatesMachine.of_stale stored stale)
      | false =>
          simp only [stale, Bool.false_eq_true, if_false]
          apply StoreCall.Promises.of_ok rfl
          · refine touchesOnly_withMachines fun other apart => ?_
            split
            · exact Dict.get?_erase_of_ne apart _
            · exact Dict.get?_insert_of_ne apart _ _
          · refine UpdatesMachine.of_current store stored stale ?_
            cases released : isReleased (store.updatedMachine present machine) with
            | true => exact Dict.get?_erase_self _ _
            | false => exact Dict.get?_insert_self _ _ _

/-- The store in memory keeps its promises as long as its objects lie under their own names. -/
theorem Store.IsKeyed.promises {store : Store} (kept : store.IsKeyed) (call : StoreCall) :
    call.Promises store (store.perform call).1 (store.perform call).2 := by
  cases call with
  | getServer | getServerClass | getServerBinding | getMetalMachine | getMachine | getCluster =>
      exact .of_looked rfl (givesObject_found _ _)
  | listServers => exact .of_looked rfl ⟨_, rfl, kept.servers.lists_values⟩
  | listServerClasses => exact .of_looked rfl ⟨_, rfl, kept.serverClasses.lists_values⟩
  | listServerBindings =>
      refine .of_looked rfl ⟨_, rfl, kept.serverBindings.lists_values, fun machine => ?_⟩
      apply kept.serverBindings.lists_filter
      intro binding
      cases machine
      simp [ServerBinding.isHeldBy, Reference.pointsTo, Reference.key, and_comm]
  | listMetalMachines =>
      refine .of_looked rfl ⟨_, rfl, kept.metalMachines.lists_values, fun server => ?_⟩
      apply kept.metalMachines.lists_filter
      intro machine
      simp [MetalMachine.namesServer, Option.any_eq_true]
  | createServerClass serverClass => exact promises_createServerClass store serverClass
  | updateServerClassSpec name spec =>
      obtain ⟨refused, touches, changes⟩ := changeServerClass_keeps store name _
      exact ⟨refused, nofun, touches, changes⟩
  | updateServerClassStatus name status =>
      obtain ⟨refused, touches, changes⟩ := changeServerClass_keeps store name _
      exact ⟨refused, nofun, touches, changes⟩
  | createServerBinding binding => exact promises_createServerBinding store binding
  | deleteServerBinding name => exact promises_deleteServerBinding store name
  | updateServerBindingStatus name status =>
      exact promises_updateServerBindingStatus store name status
  | updateMetalMachine machine => exact promises_updateMetalMachine store machine
  | updateMetalMachineStatus key status => exact promises_updateMetalMachineStatus store key status

/-- In every state that operations lead to, all objects lie under their own names and keys, and
every call keeps its promises. -/
theorem promises_kept_in_every_state (operations : List Operation) (call : StoreCall) :
    let store := Store.afterAll {} operations
    store.IsKeyed ∧ call.Promises store (store.perform call).1 (store.perform call).2 := by
  have kept : (Store.afterAll {} operations).IsKeyed := IsKeyed.empty.afterAll operations
  exact ⟨kept, kept.promises call⟩

end BareMetal
