import BareMetal.Proofs.Fleet

/-!
# Versions

Every write of a server, a class, a binding or a metal machine gives the object the next version
number, and nothing else gives one out.  So no version is given out twice, and a machine that is
found with the version with which it was read was left alone in the meantime: an update that names
that version never goes over the write of somebody else.
-/

namespace BareMetal

/-! ## Operations -/

/-- A place at which a store keeps an object that carries a version. -/
inductive Place where
  /-- The server of a name. -/
  | server (name : String)
  /-- The class of a name. -/
  | serverClass (name : String)
  /-- The binding of a name. -/
  | serverBinding (name : String)
  /-- The metal machine of a key. -/
  | metalMachine (key : ObjectKey)
  deriving DecidableEq

/-- What can be done to a store in memory. -/
inductive Operation where
  /-- A server is put in. -/
  | addServer (server : Server)
  /-- A server is taken out. -/
  | removeServer (name : String)
  /-- A class is put in. -/
  | addServerClass (serverClass : ServerClass)
  /-- A binding is put in. -/
  | addServerBinding (binding : ServerBinding)
  /-- A metal machine is put in. -/
  | addMetalMachine (machine : MetalMachine)
  /-- An owner machine is put in. -/
  | addMachine (machine : Machine)
  /-- A cluster is put in. -/
  | addCluster (cluster : Cluster)
  /-- Creating bindings is refused from now on. -/
  | failBindingCreates (message : String)
  /-- The contents are looked at. -/
  | look
  /-- A call is made. -/
  | call (call : StoreCall)

/-- The place that a call wrote, told from its reply. -/
def StoreCall.written? : (call : StoreCall) → call.Reply → Option Place
  | createServerClass serverClass, .ok _ => some (.serverClass (serverClass.metadata.name.getD ""))
  | updateServerClassSpec name _, .ok _ => some (.serverClass name)
  | updateServerClassStatus name _, .ok _ => some (.serverClass name)
  | createServerBinding binding, .ok _ => some (.serverBinding (binding.metadata.name.getD ""))
  | updateServerBindingStatus name _, .ok _ => some (.serverBinding name)
  | updateMetalMachine machine, .ok _ => some (.metalMachine machine.key)
  | updateMetalMachineStatus key _, .ok _ => some (.metalMachine key)
  | _, _ => none

namespace Store

/-- The version of the object at a place, if there is one. -/
def versionAt? (store : Store) : Place → Option (Option String)
  | .server name => (store.servers.get? name).map (·.metadata.resourceVersion)
  | .serverClass name => (store.serverClasses.get? name).map (·.metadata.resourceVersion)
  | .serverBinding name => (store.serverBindings.get? name).map (·.metadata.resourceVersion)
  | .metalMachine key => (store.metalMachines.get? key).map (·.metadata.resourceVersion)

end Store

namespace Operation

/-- The store after an operation. -/
def on (store : Store) : Operation → Store
  | addServer server => store.addServer server
  | removeServer name => store.removeServer name
  | addServerClass serverClass => store.addServerClass serverClass
  | addServerBinding binding => store.addServerBinding binding
  | addMetalMachine machine => store.addMetalMachine machine
  | addMachine machine => store.addMachine machine
  | addCluster cluster => store.addCluster cluster
  | failBindingCreates message => store.failBindingCreates message
  | look => store
  | call storeCall => (store.perform storeCall).2

/-- The place that an operation writes: it puts in, replaces or changes the object there, or lets
go of it with its last finalizer. -/
def written? (store : Store) : Operation → Option Place
  | addServer server => some (.server (server.metadata.name.getD ""))
  | addServerClass serverClass => some (.serverClass (serverClass.metadata.name.getD ""))
  | addServerBinding binding => some (.serverBinding (binding.metadata.name.getD ""))
  | addMetalMachine machine => some (.metalMachine machine.key)
  | call storeCall => storeCall.written? (store.perform storeCall).1
  | removeServer _ | addMachine _ | addCluster _ | failBindingCreates _ | look => none

/-- The version that an operation gives out: that of the object that it writes.  An updated machine
is handed back, because it may be gone from the store. -/
def given? (store : Store) : Operation → Option String
  | call (.updateMetalMachine machine) =>
      match (store.updateMetalMachine machine).1 with
      | .ok updated => updated.metadata.resourceVersion
      | .error _ => none
  | operation =>
      (operation.written? store).bind fun place => ((on store operation).versionAt? place).join

/-- A machine is read by an operation. -/
inductive Reads (store : Store) (machine : MetalMachine) : Operation → Prop
  /-- The machine is asked for. -/
  | get {key : ObjectKey} (reply : (store.perform (.getMetalMachine key)).1 = .ok machine) :
      Reads store machine (.call (.getMetalMachine key))
  /-- The machine is listed. -/
  | list {machines : List MetalMachine}
      (reply : (store.perform .listMetalMachines).1 = .ok machines) (listed : machine ∈ machines) :
      Reads store machine (.call .listMetalMachines)
  /-- The machine is among the contents that are looked at. -/
  | look {key : ObjectKey} (found : store.metalMachines.get? key = some machine) :
      Reads store machine .look

end Operation

namespace Store

/-- The store after several operations. -/
def afterAll (store : Store) (operations : List Operation) : Store :=
  operations.foldl Operation.on store

/-- The versions that several operations give out, one after the other. -/
def versionsGiven (store : Store) : List Operation → List String
  | [] => []
  | operation :: rest =>
      (operation.given? store).toList ++ versionsGiven (operation.on store) rest

end Store

open Store

variable {store after : Store} {operation : Operation} {operations : List Operation} {place : Place}

/-! ## One operation -/

/-- The versions that objects in a dictionary carry after one was put in. -/
theorem Dict.map_get?_insert {κ υ β : Type} [Ord κ] [DecidableEq κ] [Std.LawfulEqOrd κ]
    [Std.TransOrd κ] (dict : Dict κ υ) (key other : κ) (value : υ) (f : υ → β) :
    ((dict.insert key value).get? other).map f =
      if other = key then some (f value) else (dict.get? other).map f := by
  by_cases same : other = key
  · subst same
    simp
  · simp [Dict.get?_insert_of_ne same, same]

/-- What is left after a removal was there before. -/
theorem Dict.map_get?_of_erase {κ υ β : Type} [Ord κ] [DecidableEq κ] [Std.LawfulEqOrd κ]
    [Std.TransOrd κ] {dict : Dict κ υ} {key other : κ} {f : υ → β} {result : β}
    (left : ((dict.erase key).get? other).map f = some result) :
    (dict.get? other).map f = some result := by
  obtain ⟨value, found, same⟩ := Option.map_eq_some_iff.1 left
  exact Option.map_eq_some_iff.2 ⟨value, (Dict.get?_erase_eq_some.1 found).2, same⟩

/-- Nothing was written, though servers and bindings may be gone. -/
structure LeavesVersions (store after : Store) : Prop where
  /-- No version was given out. -/
  version : after.version = store.version
  /-- No metal machine was touched. -/
  metalMachines : after.metalMachines = store.metalMachines
  /-- Every object has the version that it had. -/
  versionAt? : ∀ place version, after.versionAt? place = some version →
    store.versionAt? place = some version

theorem LeavesVersions.refl (store : Store) : LeavesVersions store store :=
  ⟨rfl, rfl, fun _ _ found => found⟩

theorem leavesVersions_removeServer (store : Store) (name : String) :
    LeavesVersions store (store.removeServer name) where
  version := rfl
  metalMachines := rfl
  versionAt? place version found := by
    cases place with
    | server other => exact Dict.map_get?_of_erase found
    | _ => exact found

theorem leavesVersions_deleteServerBinding (store : Store) (name : String) :
    LeavesVersions store (store.perform (.deleteServerBinding name)).2 where
  version := rfl
  metalMachines := rfl
  versionAt? place version found := by
    cases place with
    | serverBinding other => exact Dict.map_get?_of_erase found
    | _ => exact found

/-- One place was written, and the object there carries a version now, or it is gone. -/
structure WritesAt (store : Store) (place : Place) (stamp : Option (Option String))
    (after : Store) : Prop where
  /-- One version was given out. -/
  version : after.version = store.version + 1
  /-- Metal machines at other places are the same. -/
  metalMachines : ∀ key, .metalMachine key ≠ place →
    after.metalMachines.get? key = store.metalMachines.get? key
  /-- The object at the place carries the version. -/
  own : after.versionAt? place = stamp
  /-- Objects at other places carry the versions that they had. -/
  others : ∀ other, other ≠ place → after.versionAt? other = store.versionAt? other

/-- One place was written with the next version. -/
def StampsAt (store : Store) (place : Place) (after : Store) : Prop :=
  WritesAt store place (some (some store.nextVersion)) after

section

variable {name : String}

theorem StampsAt.of_server {server : Server}
    (stamped : server.metadata.resourceVersion = some store.nextVersion) :
    StampsAt store (.server name)
      { store with
        version := store.version + 1
        servers := store.servers.insert name server } where
  version := rfl
  metalMachines _ _ := rfl
  own := by simp [versionAt?, stamped]
  others other differs := by
    cases other <;> simp_all [versionAt?, Dict.map_get?_insert]

theorem StampsAt.of_serverClass {serverClass : ServerClass}
    (stamped : serverClass.metadata.resourceVersion = some store.nextVersion) (nextUid : Nat) :
    StampsAt store (.serverClass name)
      { store with
        version := store.version + 1
        nextUid
        serverClasses := store.serverClasses.insert name serverClass } where
  version := rfl
  metalMachines _ _ := rfl
  own := by simp [versionAt?, stamped]
  others other differs := by
    cases other <;> simp_all [versionAt?, Dict.map_get?_insert]

theorem StampsAt.of_serverBinding {binding : ServerBinding}
    (stamped : binding.metadata.resourceVersion = some store.nextVersion)
    (nextUid bindingCreates : Nat) :
    StampsAt store (.serverBinding name)
      { store with
        version := store.version + 1
        nextUid
        bindingCreates
        serverBindings := store.serverBindings.insert name binding } where
  version := rfl
  metalMachines _ _ := rfl
  own := by simp [versionAt?, stamped]
  others other differs := by
    cases other <;> simp_all [versionAt?, Dict.map_get?_insert]

theorem StampsAt.of_metalMachine {machine : MetalMachine} {key : ObjectKey}
    (stamped : machine.metadata.resourceVersion = some store.nextVersion) (nextUid : Nat) :
    StampsAt store (.metalMachine key)
      { store with
        version := store.version + 1
        nextUid
        metalMachines := store.metalMachines.insert key machine } where
  version := rfl
  metalMachines other differs :=
    Dict.get?_insert_of_ne (fun same => differs (congrArg Place.metalMachine same)) _ _
  own := by simp [versionAt?, stamped]
  others other differs := by
    cases other <;> simp_all [versionAt?, Dict.map_get?_insert]

theorem writesAt_withoutMachine (store : Store) (key : ObjectKey) :
    WritesAt store (.metalMachine key) none (store.withoutMachine key) where
  version := rfl
  metalMachines other differs :=
    Dict.get?_erase_of_ne (fun same => differs (congrArg Place.metalMachine same)) _
  own := by simp [versionAt?, withoutMachine, withMachines]
  others other differs := by
    cases other with
    | metalMachine other =>
        have apart : other ≠ key := fun same => differs (congrArg Place.metalMachine same)
        simp [versionAt?, withoutMachine, withMachines, Dict.get?_erase_of_ne apart]
    | _ => rfl

end

namespace Operation

theorem given?_eq_none (nowhere : operation.written? store = none) :
    operation.given? store = none := by
  unfold given?
  split
  · rename_i machine
    split
    · rename_i updated replied
      have there : StoreCall.written? (.updateMetalMachine machine)
          (store.updateMetalMachine machine).1 = none := nowhere
      rw [replied] at there
      contradiction
    · rfl
  · rw [nowhere]
    rfl

/-- What comes of a change of a class. -/
theorem changeServerClass_cases (store : Store) (name : String)
    (change : ServerClass → ServerClass) :
    (∃ error, store.changeServerClass name change = (.error error, store)) ∨
      ∃ changed : ServerClass, changed.metadata.resourceVersion = some store.nextVersion ∧
        store.changeServerClass name change = (.ok (), { store with
          version := store.version + 1
          serverClasses := store.serverClasses.insert name changed }) := by
  unfold changeServerClass
  split
  · exact .inl ⟨_, rfl⟩
  · exact .inr ⟨_, rfl, rfl⟩

/-- What comes of an operation: it leaves all versions alone, or it writes the place that it is said
to write and gives out the next version. -/
inductive Effect (store : Store) (operation : Operation) : Prop
  /-- Nothing is written. -/
  | leaves (nowhere : operation.written? store = none)
      (leaves : LeavesVersions store (operation.on store))
  /-- One place is written. -/
  | writes {place : Place} {stamp : Option (Option String)}
      (there : operation.written? store = some place)
      (gives : operation.given? store = some store.nextVersion)
      (writes : WritesAt store place stamp (operation.on store))
      (fresh : ∀ version, stamp = some version → version = some store.nextVersion)

/-- An operation gives out the version of the object that it writes, as the store has it then. -/
def GivesStored (operation : Operation) (store : Store) : Prop :=
  operation.given? store =
    (operation.written? store).bind fun place => ((operation.on store).versionAt? place).join

theorem Effect.of_stampsAt (gives : operation.GivesStored store)
    (there : operation.written? store = some place)
    (stamps : StampsAt store place (operation.on store)) : Effect store operation := by
  refine .writes there ?_ stamps fun version same => (Option.some.inj same).symm
  rw [gives, there, Option.bind_some, stamps.own]
  rfl

theorem Effect.of_refused {request : StoreCall} {error : StoreError}
    (refused : store.perform request = (.error error, store)) :
    Effect store (.call request) := by
  have nowhere : written? store (.call request) = none := by
    rw [written?, refused]
    cases request <;> rfl
  refine .leaves nowhere ?_
  rw [on, refused]
  exact .refl store

theorem Effect.of_performed {request : StoreCall} {result : request.Result}
    (gives : GivesStored (.call request) store)
    (performed : store.perform request = (.ok result, after))
    (there : request.written? (.ok result) = some place) (stamps : StampsAt store place after) :
    Effect store (.call request) := by
  refine of_stampsAt gives (?_ : _ = some place) ?_
  · rw [written?, performed, there]
  · rwa [on, performed]

theorem effect_updateMetalMachine (store : Store) (machine : MetalMachine) :
    Effect store (.call (.updateMetalMachine machine)) := by
  have change := store.machineChange machine
  rcases performed : store.perform (.updateMetalMachine machine) with ⟨reply, after⟩
  have performed_so : store.updateMetalMachine machine = (reply, after) := performed
  rw [performed_so] at change
  cases change with
  | gone | stale => exact .of_refused performed
  | removed =>
      have wrote : WritesAt store (.metalMachine machine.key) none
          (on store (.call (.updateMetalMachine machine))) := by
        rw [on, performed]
        exact writesAt_withoutMachine store machine.key
      refine .writes ?_ ?_ wrote fun _ same => absurd same (Option.some_ne_none _).symm
      · rw [written?, performed]
        rfl
      · rw [given?, performed_so]
        rfl
  | @written stored =>
      have stamps : StampsAt store (.metalMachine machine.key)
          (on store (.call (.updateMetalMachine machine))) := by
        rw [on, performed]
        exact .of_metalMachine rfl store.nextUid
      refine .writes ?_ ?_ stamps fun _ same => (Option.some.inj same).symm
      · rw [written?, performed]
        rfl
      · rw [given?, performed_so]
        rfl

theorem effect_call (store : Store) (request : StoreCall) : Effect store (.call request) := by
  cases request with
  | createServerClass serverClass =>
      cases taken : store.serverClasses.contains (serverClass.metadata.name.getD "") with
      | true => exact .of_refused (if_pos taken)
      | false =>
          have performed : store.perform (.createServerClass serverClass) = _ :=
            if_neg (by simp [taken])
          exact .of_performed rfl performed rfl (.of_serverClass rfl _)
  | updateServerClassSpec name spec =>
      obtain ⟨error, refused⟩ | ⟨changed, stamped, performed⟩ :=
        changeServerClass_cases store name fun serverClass => { serverClass with spec }
      · exact .of_refused refused
      · exact .of_performed rfl performed rfl (.of_serverClass stamped _)
  | updateServerClassStatus name status =>
      obtain ⟨error, refused⟩ | ⟨changed, stamped, performed⟩ :=
        changeServerClass_cases store name fun serverClass =>
          { serverClass with status := some status }
      · exact .of_refused refused
      · exact .of_performed rfl performed rfl (.of_serverClass stamped _)
  | createServerBinding binding =>
      have creation := store.creation binding
      rcases performed : store.perform (.createServerBinding binding) with ⟨reply, after⟩
      change store.createServerBinding binding = _ at performed
      rw [performed] at creation
      cases creation with
      | refused | taken => exact .of_refused performed
      | created =>
          exact .of_performed rfl performed rfl (.of_serverBinding rfl _ _)
  | deleteServerBinding name => exact .leaves rfl (leavesVersions_deleteServerBinding store name)
  | updateServerBindingStatus name status =>
      have change := store.bindingStatusChange name status
      rcases performed : store.perform (.updateServerBindingStatus name status) with ⟨reply, after⟩
      change store.updateServerBindingStatus name status = _ at performed
      rw [performed] at change
      cases change with
      | gone => exact .of_refused performed
      | changed =>
          exact .of_performed rfl performed rfl (.of_serverBinding rfl _ _)
  | updateMetalMachine machine => exact effect_updateMetalMachine store machine
  | updateMetalMachineStatus key status =>
      have change := store.machineStatusChange key status
      rcases performed : store.perform (.updateMetalMachineStatus key status) with ⟨reply, after⟩
      change store.updateMetalMachineStatus key status = _ at performed
      rw [performed] at change
      cases change with
      | gone => exact .of_refused performed
      | changed => exact .of_performed rfl performed rfl (.of_metalMachine rfl _)
  | _ => exact .leaves rfl (.refl store)

/-- Every operation has one of the two effects. -/
theorem effect (store : Store) (operation : Operation) : Effect store operation := by
  cases operation with
  | addServer => exact .of_stampsAt rfl rfl (.of_server rfl)
  | addServerClass =>
      exact .of_stampsAt rfl rfl (.of_serverClass rfl store.nextUid)
  | addServerBinding =>
      exact .of_stampsAt rfl rfl
        (.of_serverBinding rfl store.nextUid store.bindingCreates)
  | addMetalMachine machine =>
      refine .of_stampsAt rfl rfl ?_
      change StampsAt store (.metalMachine machine.key) (store.addMetalMachine machine)
      unfold Store.addMetalMachine
      dsimp only
      split
      · exact .of_metalMachine rfl store.nextUid
      · exact .of_metalMachine rfl (store.nextUid + 1)
  | removeServer name => exact .leaves rfl (leavesVersions_removeServer store name)
  | addMachine | addCluster | failBindingCreates =>
      exact .leaves rfl ⟨rfl, rfl, fun _ _ found => found⟩
  | look => exact .leaves rfl (.refl store)
  | call request => exact effect_call store request

/-- An operation gives out the next version or none. -/
theorem given?_cases (store : Store) (operation : Operation) :
    (operation.given? store = none ∧ (operation.on store).version = store.version) ∨
      (operation.given? store = some store.nextVersion ∧
        (operation.on store).version = store.version + 1) := by
  cases operation.effect store with
  | leaves nowhere leaves => exact .inl ⟨given?_eq_none nowhere, leaves.version⟩
  | writes _ gives writes => exact .inr ⟨gives, writes.version⟩

/-- An operation that does not write a machine leaves it as it is. -/
theorem get?_of_not_written {key : ObjectKey}
    (spared : operation.written? store ≠ some (.metalMachine key)) :
    (operation.on store).metalMachines.get? key = store.metalMachines.get? key := by
  cases operation.effect store with
  | leaves _ leaves => rw [leaves.metalMachines]
  | writes there _ writes =>
      exact writes.metalMachines key fun same => spared (there.trans (congrArg some same.symm))

/-- A version that is found after an operation was found before, or it is the next one, at the place
that was written. -/
theorem versionAt?_cases {version : Option String}
    (found : (operation.on store).versionAt? place = some version) :
    (operation.written? store ≠ some place ∧ store.versionAt? place = some version) ∨
      (operation.written? store = some place ∧ operation.given? store = some store.nextVersion ∧
        version = some store.nextVersion) := by
  cases operation.effect store with
  | leaves nowhere leaves =>
      exact .inl ⟨by simp [nowhere], leaves.versionAt? place version found⟩
  | @writes written stamp there gives writes fresh =>
      by_cases same : place = written
      · subst same
        exact .inr ⟨there, gives, fresh version (writes.own.symm.trans found)⟩
      · exact .inl ⟨fun at_place => same (Option.some.inj (at_place.symm.trans there)),
          (writes.others place same).symm.trans found⟩

end Operation

/-! ## Several operations -/

namespace Store

@[simp] theorem afterAll_nil (store : Store) : store.afterAll [] = store := rfl

@[simp] theorem afterAll_cons (store : Store) (operation : Operation)
    (operations : List Operation) :
    store.afterAll (operation :: operations) = (operation.on store).afterAll operations :=
  rfl

@[simp] theorem afterAll_append (store : Store) (front back : List Operation) :
    store.afterAll (front ++ back) = (store.afterAll front).afterAll back :=
  List.foldl_append

/-- The versions that are given out are those that follow the last one, each one once. -/
theorem versionsGiven_eq (store : Store) (operations : List Operation) :
    ∃ count, store.versionsGiven operations =
        (List.range' (store.version + 1) count).map toString ∧
      (store.afterAll operations).version = store.version + count ∧
      count ≤ operations.length := by
  induction operations generalizing store with
  | nil => exact ⟨0, rfl, rfl, Nat.le_refl 0⟩
  | cons operation rest ih =>
      obtain ⟨count, given, version, bound⟩ := ih (operation.on store)
      rcases operation.given?_cases store with ⟨nothing, same⟩ | ⟨next, stepped⟩
      · rw [same] at given version
        refine ⟨count, ?_, version, Nat.le_succ_of_le bound⟩
        simp [versionsGiven, nothing, given]
      · rw [stepped] at given version
        refine ⟨count + 1, ?_, ?_, Nat.succ_le_succ bound⟩
        · simp [versionsGiven, next, given, nextVersion, List.range'_succ]
        · rw [afterAll_cons, version]
          omega

/-- No version is given out twice. -/
theorem nodup_versionsGiven (store : Store) (operations : List Operation) :
    (store.versionsGiven operations).Nodup := by
  obtain ⟨count, given, -⟩ := store.versionsGiven_eq operations
  rw [given]
  exact List.Pairwise.map _ (fun _ _ apart same => apart (Nat.repr_injective same))
    List.nodup_range'

/-- Every version that an object carries is among some texts. -/
def Carries (store : Store) (texts : List String) : Prop :=
  ∀ place version, store.versionAt? place = some version → ∃ text ∈ texts, version = some text

/-- What objects carry was given out. -/
theorem Carries.afterAll {texts : List String} (carries : store.Carries texts)
    (operations : List Operation) :
    (store.afterAll operations).Carries (texts ++ store.versionsGiven operations) := by
  induction operations generalizing store texts with
  | nil => simpa [versionsGiven] using carries
  | cons operation rest ih =>
      have carries_next : (operation.on store).Carries
          (texts ++ (operation.given? store).toList) := by
        intro place version found
        rcases Operation.versionAt?_cases found with ⟨-, before⟩ | ⟨-, gives, rfl⟩
        · obtain ⟨text, member, same⟩ := carries place version before
          exact ⟨text, List.mem_append_left _ member, same⟩
        · exact ⟨store.nextVersion, by simp [gives], rfl⟩
      have carries_all := ih carries_next
      rwa [List.append_assoc] at carries_all

/-- What operations lead to comes about. -/
theorem Arises.afterAll (arises : store.Arises) (operations : List Operation) :
    (store.afterAll operations).Arises := by
  induction operations generalizing store with
  | nil => exact arises
  | cons operation rest ih =>
      refine ih ?_
      cases operation with
      | addServer server => exact .addServer arises server
      | removeServer name => exact .removeServer arises name
      | addServerClass serverClass => exact .addServerClass arises serverClass
      | addServerBinding binding => exact .addServerBinding arises binding
      | addMetalMachine machine => exact .addMetalMachine arises machine
      | addMachine machine => exact .addMachine arises machine
      | addCluster cluster => exact .addCluster arises cluster
      | failBindingCreates message => exact .failBindingCreates arises message
      | look => exact arises
      | call storeCall => exact .perform arises storeCall

/-! ## Machines that were written since -/

/-- The object at a place, if there is one, carries a version that was given out after a number. -/
structure Younger (store : Store) (place : Place) (number : Nat) : Prop where
  /-- The number is not in the future. -/
  bound : number ≤ store.version
  /-- The version is later. -/
  later : ∀ version, store.versionAt? place = some version →
    ∃ since > number, version = some (toString since)

theorem Younger.of_written {number : Nat} (bound : number ≤ store.version)
    (written : operation.written? store = some place) :
    (operation.on store).Younger place number where
  bound := by
    rcases operation.given?_cases store with ⟨-, same⟩ | ⟨-, stepped⟩ <;> omega
  later version found := by
    rcases Operation.versionAt?_cases found with ⟨spared, -⟩ | ⟨-, -, rfl⟩
    · exact absurd written spared
    · exact ⟨store.version + 1, Nat.lt_succ_of_le bound, rfl⟩

theorem Younger.on {number : Nat} (younger : store.Younger place number)
    (operation : Operation) : (operation.on store).Younger place number where
  bound := by
    have := younger.bound
    rcases operation.given?_cases store with ⟨-, same⟩ | ⟨-, stepped⟩ <;> omega
  later version found := by
    rcases Operation.versionAt?_cases found with ⟨-, before⟩ | ⟨-, -, rfl⟩
    · exact younger.later version before
    · exact ⟨store.version + 1, Nat.lt_succ_of_le younger.bound, rfl⟩

theorem Younger.afterAll {number : Nat} (younger : store.Younger place number)
    (operations : List Operation) : (store.afterAll operations).Younger place number := by
  induction operations generalizing store with
  | nil => exact younger
  | cons operation rest ih => exact ih (younger.on operation)

/-- An object that is found with a version that was given out before is not younger. -/
theorem Younger.versionAt?_ne {number : Nat} (younger : store.Younger place number) :
    store.versionAt? place ≠ some (some (toString number)) := by
  intro found
  obtain ⟨since, later, same⟩ := younger.later _ found
  have : number = since := Nat.repr_injective (Option.some.inj same)
  omega

/-- Operations that do not write a machine leave it as it is. -/
theorem get?_afterAll {key : ObjectKey} {operations : List Operation}
    (spared : ∀ before operation rest, operations = before ++ operation :: rest →
      operation.written? (store.afterAll before) ≠ some (.metalMachine key)) :
    (store.afterAll operations).metalMachines.get? key = store.metalMachines.get? key := by
  induction operations generalizing store with
  | nil => rfl
  | cons operation rest ih =>
      have first : operation.written? store ≠ some (.metalMachine key) := spared [] _ _ rfl
      rw [afterAll_cons, ih, Operation.get?_of_not_written first]
      intro before next behind same
      exact spared (operation :: before) next behind (congrArg _ same)

/-- A machine that is found with the version that it had before was not written in the meantime. -/
theorem not_written_of_version {key : ObjectKey} {number : Nat} (bound : number ≤ store.version)
    (found : (store.afterAll operations).versionAt? (.metalMachine key) =
      some (some (toString number)))
    {before rest : List Operation} (split : operations = before ++ operation :: rest) :
    operation.written? (store.afterAll before) ≠ some (.metalMachine key) := by
  intro written
  obtain ⟨count, -, version, -⟩ := store.versionsGiven_eq before
  have bound_then : number ≤ (store.afterAll before).version := by omega
  have younger := (Younger.of_written bound_then written).afterAll rest
  subst split
  rw [afterAll_append, afterAll_cons] at found
  exact younger.versionAt?_ne found

end Store

/-- A machine that was read was there, under its key, and the reading leaves it there. -/
theorem Operation.Reads.get? {machine : MetalMachine} (reads : operation.Reads store machine)
    (arises : store.Arises) :
    store.metalMachines.get? machine.key = some machine ∧ operation.on store = store := by
  have keyed := arises.wellKept.machine_key
  cases reads with
  | @get key reply =>
      have found : store.metalMachines.get? key = some machine := by
        cases stored : store.metalMachines.get? key with
        | none => simp [perform, Store.found, stored] at reply
        | some other =>
            simp only [perform, Store.found, stored, Except.ok.injEq] at reply
            rw [reply]
      exact ⟨keyed key machine found ▸ found, rfl⟩
  | list reply listed =>
      obtain rfl := Except.ok.inj reply
      obtain ⟨key, found⟩ := Dict.mem_values.1 listed
      exact ⟨keyed key machine found ▸ found, rfl⟩
  | @look key found => exact ⟨keyed key machine found ▸ found, rfl⟩

/-- What an accepted update of a machine found: a machine of the version that it names. -/
theorem Store.versionAt?_of_updated {machine updated : MetalMachine}
    (named : machine.metadata.resourceVersion.isSome = true)
    (accepted : (store.updateMetalMachine machine).1 = .ok updated) :
    store.versionAt? (.metalMachine machine.key) = some machine.metadata.resourceVersion := by
  have change := store.machineChange machine
  rw [accepted] at change
  generalize (store.updateMetalMachine machine).2 = left at change
  cases change with
  | removed found current | written found current =>
      simp [versionAt?, found, resourceVersion_of_not_isStale current named]

/-- No update is lost.  Whatever is done to a store that was empty, no version is given out twice,
every object carries one that was given out, and there are no more of them than operations.  An
update that names the version with which a machine was read is accepted only if nothing wrote that
machine since, so that it finds what was read. -/
theorem no_lost_update (operations : List Operation) :
    (versionsGiven {} operations).Nodup ∧
    (∀ place version, (afterAll {} operations).versionAt? place = some version →
      ∃ text ∈ versionsGiven {} operations, version = some text) ∧
    (afterAll {} operations).version ≤ operations.length ∧
    ∀ (front between : List Operation) (read : Operation) (machine copy updated : MetalMachine),
      operations = front ++ read :: between →
      read.Reads (afterAll {} front) machine →
      copy.key = machine.key →
      copy.metadata.resourceVersion = machine.metadata.resourceVersion →
      ((afterAll {} operations).updateMetalMachine copy).1 = .ok updated →
      (∀ before operation rest, between = before ++ operation :: rest →
        operation.written? (afterAll {} (front ++ read :: before)) ≠
          some (.metalMachine machine.key)) ∧
      (afterAll {} operations).metalMachines.get? machine.key = some machine := by
  refine ⟨nodup_versionsGiven {} operations, ?_, ?_, ?_⟩
  · have carries : Carries {} [] := fun place version found => by cases place <;> cases found
    exact carries.afterAll operations
  · obtain ⟨count, -, version, bound⟩ := versionsGiven_eq {} operations
    rw [version]
    exact (Nat.zero_add count).symm ▸ bound
  · rintro front between read machine copy updated rfl reads keyed named accepted
    have arises := Arises.empty.afterAll front
    obtain ⟨found, unchanged⟩ := reads.get? arises
    obtain ⟨number, bound, version⟩ := arises.wellKept.machine_version _ machine found
    have found_last := versionAt?_of_updated (by simp [named, version]) accepted
    rw [afterAll_append, afterAll_cons, unchanged] at found_last ⊢
    rw [keyed, named, version] at found_last
    have spared : ∀ before operation rest, between = before ++ operation :: rest →
        operation.written? ((afterAll {} front).afterAll before) ≠
          some (.metalMachine machine.key) :=
      fun before operation rest split => not_written_of_version bound found_last split
    refine ⟨?_, (get?_afterAll spared).trans found⟩
    intro before operation rest split
    rw [afterAll_append, afterAll_cons, unchanged]
    exact spared before operation rest split

namespace Laboratory

/-- A metal machine as a store keeps it that was empty before. -/
def keptMachine : MetalMachine :=
  { machine "m" {} with
    metadata.resourceVersion := some "1"
    metadata.uid := some (Text.uuid 0) }

/-- A copy of that machine that is held back now. -/
def heldBack : MetalMachine := { keptMachine with metadata.finalizers := some ["metal"] }

/-- A machine is put in and read, and a server is put in after that. -/
def reading : List Operation :=
  [.addMetalMachine (machine "m" {}), .call (.getMetalMachine (key "m")), .addServer (server "a")]

/-- The copy as an update leaves it. -/
def updatedHeldBack : MetalMachine := { heldBack with metadata.resourceVersion := some "3" }

end Laboratory

/-- An update is accepted although a server was put in since the machine was read. -/
theorem no_lost_update_undisturbed :
    Operation.Reads (afterAll {} [.addMetalMachine (Laboratory.machine "m" {})])
      Laboratory.keptMachine (.call (.getMetalMachine (Laboratory.key "m"))) ∧
    ((afterAll {} Laboratory.reading).updateMetalMachine Laboratory.heldBack).1 =
      .ok Laboratory.updatedHeldBack ∧
    (versionsGiven {} Laboratory.reading).Nodup ∧
    (afterAll {} Laboratory.reading).metalMachines.get? (Laboratory.key "m") =
      some Laboratory.keptMachine := by
  have reads : Operation.Reads (afterAll {} [.addMetalMachine (Laboratory.machine "m" {})])
      Laboratory.keptMachine (.call (.getMetalMachine (Laboratory.key "m"))) := .get rfl
  have accepted : ((afterAll {} Laboratory.reading).updateMetalMachine Laboratory.heldBack).1 =
      .ok Laboratory.updatedHeldBack := rfl
  obtain ⟨once, -, -, unhindered⟩ := no_lost_update Laboratory.reading
  have untouched := unhindered [.addMetalMachine (Laboratory.machine "m" {})]
    [.addServer (Laboratory.server "a")] _ _ Laboratory.heldBack Laboratory.updatedHeldBack
    rfl reads rfl rfl accepted
  exact ⟨reads, accepted, once, untouched.2⟩

end BareMetal
