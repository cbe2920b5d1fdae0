import BareMetal.Pass.Machine
import BareMetal.Proofs.Names
import BareMetal.Proofs.Pass.Holding

/-!
# Passes that run to their end

A pass that runs with nothing else happening gives one value and leaves one state of its
surroundings.  What it reads it leaves as it was, so that a look for the bindings of a machine
changes nothing but the index.
-/

namespace BareMetal

variable {α β : Type}

namespace Surroundings

/-- The surroundings of an allocator that remembers another index. -/
def withIndex (world : Surroundings) (index : Index) : Surroundings :=
  { world with memory.index := index }

/-- The surroundings with another store. -/
def withStore (world : Surroundings) (store : Store) : Surroundings := { world with store }

@[simp] theorem store_withIndex (world : Surroundings) (index : Index) :
    (world.withIndex index).store = world.store :=
  rfl

@[simp] theorem index_withIndex (world : Surroundings) (index : Index) :
    (world.withIndex index).memory.index = index :=
  rfl

@[simp] theorem withIndex_withIndex (world : Surroundings) (index other : Index) :
    (world.withIndex index).withIndex other = world.withIndex other :=
  rfl

@[simp] theorem store_withStore (world : Surroundings) (store : Store) :
    (world.withStore store).store = store :=
  rfl

@[simp] theorem index_withStore (world : Surroundings) (store : Store) :
    (world.withStore store).memory.index = world.memory.index :=
  rfl

end Surroundings

/-! ## One query after the other -/

/-- A pass followed by another goes on with what the first gives. -/
theorem Pass.run_bind_of {first : Pass β} {rest : β → Pass α} {value : β}
    {world later : Surroundings} (ran : first.run world = (value, later)) :
    (first >>= rest).run world = (rest value).run later := by
  rw [Pass.run_bind, ran]

/-- A call is answered by the store. -/
theorem Pass.run_call_bind {call : StoreCall} (rest : call.Reply → Pass α)
    (world : Surroundings) : (Pass.call call >>= rest).run world =
      (rest (world.store.perform call).1).run (world.withStore (world.store.perform call).2) :=
  rfl

/-- A look-up gives what is there and changes nothing. -/
theorem Pass.run_get_bind {call : StoreCall} {what : String}
    {look : Store → Option call.Result} (rest : call.Reply → Pass α) (world : Surroundings)
    (reads : ∀ now : Store, now.perform call = (Store.found what (look now), now)) :
    (Pass.call call >>= rest).run world =
      (rest (Store.found what (look world.store))).run world := by
  rw [Pass.run_call_bind, reads]
  rfl

namespace Attempt

/-- An attempt followed by another goes on with what the first gives. -/
theorem run_bind_of_ok {first : Attempt β} {rest : β → Attempt α} {value : β}
    {world later : Surroundings} (ran : first.run.run world = (.ok value, later)) :
    (first >>= rest).run.run world = (rest value).run.run later :=
  Pass.run_bind_of ran

theorem run_call_bind {call : StoreCall} (rest : call.Reply → Attempt α) (world : Surroundings) :
    ((Pass.call call : Attempt call.Reply) >>= rest).run.run world =
      (rest (world.store.perform call).1).run.run
        (world.withStore (world.store.perform call).2) :=
  rfl

theorem run_get_bind {call : StoreCall} {what : String} {look : Store → Option call.Result}
    (rest : call.Reply → Attempt α) (world : Surroundings)
    (reads : ∀ now : Store, now.perform call = (Store.found what (look now), now)) :
    ((Pass.call call : Attempt call.Reply) >>= rest).run.run world =
      (rest (Store.found what (look world.store))).run.run world :=
  Pass.run_get_bind (fun reply => (rest reply).run) world reads

theorem run_learn_bind {event : Index.Event} (rest : Unit → Attempt α) (world : Surroundings) :
    ((Pass.learn event : Attempt Unit) >>= rest).run.run world =
      (rest ()).run.run (world.withIndex (world.memory.index.learn event)) :=
  rfl

theorem run_bindingsFor_bind {machine : ObjectKey} (rest : List String → Attempt α)
    (world : Surroundings) :
    ((Pass.bindingsFor machine : Attempt (List String)) >>= rest).run.run world =
      (rest (world.memory.index.bindingsFor machine)).run.run world :=
  rfl

theorem run_machinesFor_bind {server : String} (rest : List ObjectKey → Attempt α)
    (world : Surroundings) :
    ((Pass.machinesFor server : Attempt (List ObjectKey)) >>= rest).run.run world =
      (rest (world.memory.index.machinesFor server)).run.run world :=
  rfl

theorem run_learnAll_bind (events : List Index.Event) (rest : Unit → Attempt α)
    (world : Surroundings) :
    ((Pass.learnAll events : Attempt Unit) >>= rest).run.run world =
      (rest ()).run.run (world.withIndex (events.foldl Index.learn world.memory.index)) := by
  induction events generalizing world with
  | nil => rfl
  | cons event events ih => exact ih (world.withIndex (world.memory.index.learn event))

end Attempt

/-- A pass over a machine ends with the commit of the copy that it worked on. -/
theorem withCommit_run {machine copy : MetalMachine}
    {work : MetalMachine → Pass (Except PassError Outcome × MetalMachine)}
    {result : Except PassError Outcome} {reply : Except StoreError Unit}
    {world now later : Surroundings} (worked : (work machine).run world = ((result, copy), now))
    (committed : (commitMachine machine copy).run now = (reply, later)) :
    (withCommit machine work).run world = (settled result reply, later) := by
  unfold withCommit finishMachine
  exact (Pass.run_bind_of worked).trans (Pass.run_bind_of committed)

/-! ## Looking for bindings -/

namespace Store

/-- The binding of a name, if it is there and the machine of a key holds it. -/
def heldUnder? (store : Store) (machine : ObjectKey) (name : String) : Option ServerBinding :=
  (store.serverBindings.get? name).filter fun binding => binding.isHeldBy machine

/-- The index without the names of a list that no binding goes by. -/
def forget (store : Store) (names : List String) (index : Index) : Index :=
  names.foldl (fun index name =>
    if (store.serverBindings.get? name).isNone then index.removeBinding name else index) index

theorem heldUnder?_eq_some_iff {store : Store} {machine : ObjectKey} {name : String}
    {binding : ServerBinding} : store.heldUnder? machine name = some binding ↔
      store.serverBindings.get? name = some binding ∧ binding.isHeldBy machine = true :=
  Option.filter_eq_some_iff

end Store

namespace Surroundings

/-- The bindings that the index knows for a machine and that the machine holds. -/
def known (world : Surroundings) (machine : ObjectKey) : List ServerBinding :=
  (world.memory.index.bindingsFor machine).filterMap (world.store.heldUnder? machine)

/-- The bindings that a look for those of a machine finds. -/
def held (world : Surroundings) (machine : ObjectKey) : List ServerBinding :=
  (if (world.known machine).isEmpty then bindingsOf machine world.store.serverBindings.values
    else world.known machine).mergeSort ServerBinding.inNameOrder

/-- What the index remembers after a look for the bindings of a machine. -/
def indexAfterLook (world : Surroundings) (machine : ObjectKey) : Index :=
  let checked := world.store.forget (world.memory.index.bindingsFor machine) world.memory.index
  if (world.known machine).isEmpty then
    ((bindingsOf machine world.store.serverBindings.values).map .bindingSeen).foldl
      Index.learn checked
  else checked

end Surroundings

theorem checkBindings_run (machine : ObjectKey) (names : List String) (world : Surroundings) :
    (checkBindings machine names).run.run world =
      (.ok (names.filterMap (world.store.heldUnder? machine)),
        world.withIndex (world.store.forget names world.memory.index)) := by
  induction names generalizing world with
  | nil => rfl
  | cons name rest ih =>
      unfold checkBindings
      refine (Attempt.run_get_bind _ world fun _ => rfl).trans ?_
      cases found : world.store.serverBindings.get? name with
      | none =>
          refine (Attempt.run_learn_bind _ world).trans ((ih _).trans ?_)
          rw [List.filterMap_cons_none (by rw [Store.heldUnder?, found]; rfl)]
          simp [Store.forget, found, Index.learn]
      | some binding =>
          refine (Attempt.run_bind_of_ok (ih world)).trans ?_
          cases held : binding.isHeldBy machine with
          | true =>
              rw [List.filterMap_cons_some (Store.heldUnder?_eq_some_iff.2 ⟨found, held⟩)]
              simp [Store.forget, found]
              rfl
          | false =>
              rw [List.filterMap_cons_none (by simp [Store.heldUnder?, found, held])]
              simp [Store.forget, found]
              rfl

theorem listBindings_run (machine : ObjectKey) (world : Surroundings) :
    (listBindings machine).run.run world =
      (.ok (bindingsOf machine world.store.serverBindings.values),
        world.withIndex (((bindingsOf machine world.store.serverBindings.values).map
          .bindingSeen).foldl Index.learn world.memory.index)) :=
  Attempt.run_learnAll_bind _ _ world

/-- A look for the bindings of a machine changes nothing but the index. -/
theorem heldBindings_run (machine : ObjectKey) (world : Surroundings) :
    (heldBindings machine).run.run world =
      (.ok (world.held machine), world.withIndex (world.indexAfterLook machine)) := by
  unfold heldBindings
  refine (Attempt.run_bindingsFor_bind _ world).trans ?_
  refine (Attempt.run_bind_of_ok (checkBindings_run machine _ world)).trans ?_
  unfold Surroundings.held Surroundings.indexAfterLook Surroundings.known
  dsimp only
  split
  · exact Attempt.run_bind_of_ok (listBindings_run machine _)
  · rfl

/-! ## What a look finds -/

namespace Index

variable {index : Index} {key : ObjectKey} {name : String}

theorem mem_bindingsFor :
    name ∈ index.bindingsFor key ↔ index.holders.forth.get? name = some key :=
  Links.mem_keysOf

/-- What is seen of machines says nothing of bindings. -/
theorem bindingsFor_machineSeen (index : Index) (machine : MetalMachine) (key : ObjectKey) :
    (index.learn (.machineSeen machine)).bindingsFor key = index.bindingsFor key := by
  unfold learn applyMachine
  dsimp only
  split <;> rfl

end Index

/-- All bindings of a store go by the names that they lie under. -/
def Store.NamesBindings (store : Store) : Prop :=
  ∀ name binding, store.serverBindings.get? name = some binding → binding.anyName = name

theorem Store.namesBindings_of_all {store : Store}
    (same : store.serverBindings.entries.all (fun entry => entry.2.anyName == entry.1) = true) :
    store.NamesBindings :=
  fun _ _ found => beq_iff_eq.1 (List.all_eq_true.1 same _ (Dict.get?_eq_some_iff.1 found))

namespace Surroundings

variable {world : Surroundings} {key : ObjectKey} {name : String} {binding : ServerBinding}

theorem mem_known : binding ∈ world.known key ↔
    ∃ name ∈ world.memory.index.bindingsFor key, world.store.heldUnder? key name = some binding :=
  List.mem_filterMap

/-- A look finds nothing but bindings of the machine. -/
theorem heldUnder?_of_mem_held (member : binding ∈ world.held key) :
    ∃ name, world.store.heldUnder? key name = some binding := by
  unfold held at member
  rw [List.mem_mergeSort] at member
  split at member
  · obtain ⟨listed, held⟩ := List.mem_filter.1 member
    obtain ⟨name, found⟩ := Dict.mem_values.1 listed
    exact ⟨name, Store.heldUnder?_eq_some_iff.2 ⟨found, held⟩⟩
  · obtain ⟨name, _, found⟩ := mem_known.1 member
    exact ⟨name, found⟩

/-- A look finds what the index knows. -/
theorem mem_held_of_known (member : binding ∈ world.known key) : binding ∈ world.held key := by
  unfold held
  rw [List.mem_mergeSort, if_neg]
  · exact member
  · exact fun empty => by simp [List.isEmpty_iff.1 empty] at member

/-- A look finds all bindings of the machine if the index knows none. -/
theorem mem_held_of_unknown (unknown : world.known key = [])
    (found : world.store.heldUnder? key name = some binding) : binding ∈ world.held key := by
  obtain ⟨stored, holds⟩ := Store.heldUnder?_eq_some_iff.1 found
  unfold held
  rw [List.mem_mergeSort, unknown]
  exact List.mem_filter.2 ⟨Dict.mem_values.2 ⟨name, stored⟩, holds⟩

/-- A look finds nothing exactly if the machine holds nothing. -/
theorem held_eq_nil_iff : world.held key = [] ↔ world.store.HoldsNothing key := by
  constructor
  · intro none_found name binding stored
    refine Bool.eq_false_iff.2 fun holds => ?_
    have unknown : world.known key = [] := List.eq_nil_iff_forall_not_mem.2 fun other member =>
      List.not_mem_nil (none_found ▸ mem_held_of_known member)
    have member := mem_held_of_unknown unknown (Store.heldUnder?_eq_some_iff.2 ⟨stored, holds⟩)
    exact List.not_mem_nil (none_found ▸ member)
  · intro holds_nothing
    refine List.eq_nil_iff_forall_not_mem.2 fun binding member => ?_
    obtain ⟨name, found⟩ := heldUnder?_of_mem_held member
    obtain ⟨stored, holds⟩ := Store.heldUnder?_eq_some_iff.1 found
    exact nomatch (holds_nothing name binding stored).symm.trans holds

end Surroundings

/-! ## Passes in a row -/

/-- The surroundings after several passes over the machine of a key. -/
def Surroundings.afterPasses (world : Surroundings) (key : ObjectKey) : Nat → Surroundings
  | 0 => world
  | count + 1 => ((machinePass key).run (world.afterPasses key count)).2

end BareMetal
