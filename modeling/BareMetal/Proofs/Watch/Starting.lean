import BareMetal.Pass.Startup
import BareMetal.Proofs.Pass.Running
import BareMetal.Proofs.Store.WellKept
import BareMetal.Proofs.Watch.Remembering

/-!
# An index at the start of an allocator

An index answers as a scan of the store would if it has noted of each object in the store what is
noted of it, and nothing else.  Starting up succeeds and makes it do so, about bindings and about
machines, whatever it said before.
-/

namespace BareMetal

open Store

variable {α : Type} {world : Surroundings}

/-! ## Answers and the store -/

/-- An index answers about bindings as a scan of the store would. -/
def Index.TellsBindings (index : Index) (store : Store) : Prop :=
  ∀ machine, index.bindingsFor machine =
    ascending ((bindingsOf machine store.serverBindings.values).map ServerBinding.anyName)

/-- An index answers about machines as a scan of the store would. -/
def Index.TellsMachines (index : Index) (store : Store) : Prop :=
  ∀ server, index.machinesFor server =
    ascending ((machinesNaming server store.metalMachines.values).map MetalMachine.key)

/-- All machines of a store have the keys that they lie under. -/
def Store.KeysMachines (store : Store) : Prop :=
  ∀ key machine, store.metalMachines.get? key = some machine → machine.key = key

theorem Store.Arises.keysMachines {store : Store} (arises : store.Arises) : store.KeysMachines :=
  arises.wellKept.machine_key

namespace Table

variable {κ τ : Type} [Ord κ] [Std.LawfulEqOrd κ] {table : Table α κ τ} {objects : Dict κ α}

/-- All objects have the keys that they lie under. -/
def Keys (table : Table α κ τ) (objects : Dict κ α) : Prop :=
  ∀ key object, objects.get? key = some object → table.key object = key

theorem Keys.nodup (keys : table.Keys objects) : (objects.values.map table.key).Nodup :=
  Dict.map_values_eq_keys keys ▸ objects.nodup_keys

/-- Entries mirror the objects of a dictionary if they have under each key what is noted of the
object there. -/
theorem Keys.mirrors_iff {entries : Dict κ τ} (keys : table.Keys objects) :
    table.Mirrors entries objects.values ↔
      ∀ key, entries.get? key = (objects.get? key).bind table.entry? := by
  have among : ∀ key target, (∃ object ∈ objects.values, table.key object = key ∧
      table.entry? object = some target) ↔ (objects.get? key).bind table.entry? = some target := by
    intro key target
    rw [Option.bind_eq_some_iff]
    constructor
    · rintro ⟨object, member, rfl, noted⟩
      obtain ⟨key, found⟩ := Dict.mem_values.1 member
      exact ⟨object, keys key object found ▸ found, noted⟩
    · rintro ⟨object, found, noted⟩
      exact ⟨object, Dict.mem_values.2 ⟨key, found⟩, keys key object found, noted⟩
  constructor
  · intro mirrors key
    exact Option.ext fun target => (mirrors key target).trans (among key target)
  · intro same key target
    rw [same, among]

/-- Links answer as a scan of objects would if and only if they mirror them. -/
theorem forall_keysOf_eq_scan_iff [Std.TransOrd κ] [Ord τ] [DecidableEq τ] (links : Links κ τ)
    {objects : List α} (distinct : (objects.map table.key).Nodup) :
    (∀ target, links.keysOf target = table.scan objects target) ↔
      table.Mirrors links.forth objects := by
  constructor
  · intro same key target
    rw [← Links.mem_keysOf, same, scan, ascending, List.mem_mergeSort]
    simp [and_left_comm, and_comm]
  · intro mirrors target
    rw [Links.keysOf_eq_filter]
    exact mirrors.keys_eq_scan distinct target

end Table

namespace Index

variable {index : Index} {store : Store}

theorem tellsBindings_iff_mirrors (named : store.NamesBindings) : index.TellsBindings store ↔
    Table.holders.Mirrors index.holders.forth store.serverBindings.values := by
  have keys : Table.holders.Keys store.serverBindings := named
  have answers := Table.forall_keysOf_eq_scan_iff index.holders keys.nodup
  rwa [Table.scan_holders] at answers

theorem tellsMachines_iff_mirrors (keyed : store.KeysMachines) : index.TellsMachines store ↔
    Table.targets.Mirrors index.targets.forth store.metalMachines.values := by
  have keys : Table.targets.Keys store.metalMachines := keyed
  have answers := Table.forall_keysOf_eq_scan_iff index.targets keys.nodup
  rwa [Table.scan_targets] at answers

theorem tellsBindings_iff (named : store.NamesBindings) : index.TellsBindings store ↔
    ∀ name, index.holders.forth.get? name =
      (store.serverBindings.get? name).map ServerBinding.holder := by
  have keys : Table.holders.Keys store.serverBindings := named
  rw [tellsBindings_iff_mirrors named, keys.mirrors_iff]
  refine forall_congr' fun name => ?_
  cases store.serverBindings.get? name <;> rfl

/-- Whatever an index said, told of all bindings and then of all machines it answers from them. -/
theorem tells_of_listed (index : Index) (named : store.NamesBindings)
    (keyed : store.KeysMachines) :
    let listed := (index.learn (.bindingsListed store.serverBindings.values)).learn
      (.machinesListed store.metalMachines.values)
    listed.TellsBindings store ∧ listed.TellsMachines store := by
  intro listed
  have binding_keys : Table.holders.Keys store.serverBindings := named
  have machine_keys : Table.targets.Keys store.metalMachines := keyed
  have holders : listed.holders.forth =
      store.serverBindings.values.foldl Table.holders.note Dict.empty :=
    (congrArg Links.forth (holders_learn _ rfl)).trans (index.holders_replaceBindings _)
  have targets : listed.targets.forth =
      store.metalMachines.values.foldl Table.targets.note Dict.empty :=
    targets_replaceMachines _ _
  rw [tellsBindings_iff_mirrors named, tellsMachines_iff_mirrors keyed, holders, targets]
  exact ⟨Table.holders.mirrors_foldl_note binding_keys.nodup,
    Table.targets.mirrors_foldl_note machine_keys.nodup⟩

end Index

/-! ## Starting up -/

/-- A class is created, or one of its name is there. -/
theorem Store.createServerClass_cases (store : Store) (serverClass : ServerClass) :
    (∃ created, (store.createServerClass serverClass).1 = .ok created) ∨
      ∃ what, (store.createServerClass serverClass).1 = .error (.alreadyExists what) := by
  unfold createServerClass
  dsimp only
  split
  · exact .inr ⟨_, rfl⟩
  · exact .inl ⟨_, rfl⟩

/-- The store after the class `any` was created, if it was not there. -/
def Store.withAny (store : Store) : Store := (store.createServerClass .any).2

theorem ensureAny_run (world : Surroundings) :
    ensureAny.run.run world = (.ok (), world.withStore world.store.withAny) := by
  refine (Attempt.run_call_bind _ world).trans ?_
  have replied : (world.store.perform (.createServerClass .any)).1 =
      (world.store.createServerClass .any).1 := rfl
  rcases world.store.createServerClass_cases .any with ⟨created, made⟩ | ⟨what, made⟩ <;>
    rw [replied, made] <;> rfl

/-- Starting up succeeds, and the index is told of all bindings and all machines in the store. -/
theorem startup_run (world : Surroundings) :
    startup.run.run world = (.ok (), (world.withStore world.store.withAny).withIndex
      ((world.memory.index.learn (.bindingsListed world.store.withAny.serverBindings.values)).learn
        (.machinesListed world.store.withAny.metalMachines.values))) :=
  Attempt.run_bind_of_ok (ensureAny_run world)

theorem startup_tells (named : world.store.NamesBindings) (keyed : world.store.KeysMachines) :
    (startup.run.run world).1 = .ok () ∧
      (startup.run.run world).2.memory.index.TellsBindings (startup.run.run world).2.store ∧
      (startup.run.run world).2.memory.index.TellsMachines (startup.run.run world).2.store := by
  have leaves : LeavesClaims world.store world.store.withAny :=
    leavesClaims_createServerClass world.store .any
  have named_after : world.store.withAny.NamesBindings := fun name binding found =>
    named name binding (leaves.serverBindings ▸ found)
  have keyed_after : world.store.withAny.KeysMachines := fun key machine found =>
    keyed key machine (leaves.metalMachines ▸ found)
  rw [startup_run]
  exact ⟨rfl, world.memory.index.tells_of_listed named_after keyed_after⟩

end BareMetal
