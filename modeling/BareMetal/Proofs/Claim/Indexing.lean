import BareMetal.Proofs.Claim.Evolution
import BareMetal.Proofs.Fleet
import BareMetal.Proofs.Pass.Machine
import BareMetal.Proofs.Pass.Release
import BareMetal.Proofs.Pass.Running
import BareMetal.Proofs.Pass.Sparing
import Mathlib.Data.List.Basic

/-!
# What a pass owes to its index

The index spares a pass over a machine the listing of all bindings, and no more than that.  If the
machine holds at most one server, then the pass finds the same binding whatever the index says, and
all that others can see of the pass is the same.
-/

namespace BareMetal

open Store

variable {α β : Type} {world : Surroundings} {key : ObjectKey} {machine : MetalMachine}

/-! ## Runs that look alike -/

namespace Pass

/-- What a pass does that others can see, one after the other. -/
def effects : Pass α → Surroundings → List PassQuery
  | .done _, _ => []
  | .ask query next, world =>
      (if query.isEffect then [query] else []) ++
        effects (next (Surroundings.answer query world).1) (Surroundings.answer query world).2

/-- A pass gives the same from two states of its surroundings, does the same, and leaves the same
but for the index. -/
structure SameRun (pass : Pass α) (world other : Surroundings) : Prop where
  /-- The values are the same. -/
  value : (pass.run other).1 = (pass.run world).1
  /-- The surroundings are the same but for the index. -/
  surroundings : ∃ index, (pass.run other).2 = (pass.run world).2.withIndex index
  /-- All that others can see is done alike. -/
  effects : pass.effects other = pass.effects world

/-- Whatever the index says, a pass does the same. -/
def IgnoresIndex (pass : Pass α) (world : Surroundings) : Prop :=
  ∀ index, pass.SameRun world (world.withIndex index)

theorem run_ask (query : PassQuery) (next : query.Answer → Pass α) (world : Surroundings) :
    Pass.run (.ask query next) world =
      (next (Surroundings.answer query world).1).run (Surroundings.answer query world).2 :=
  rfl

theorem effects_bind (first : Pass β) (rest : β → Pass α) (world : Surroundings) :
    (first >>= rest).effects world =
      first.effects world ++ (rest (first.run world).1).effects (first.run world).2 := by
  induction first generalizing world with
  | done value => rfl
  | ask query next ih =>
      change _ ++ _ = (_ ++ _) ++ _
      rw [List.append_assoc]
      exact congrArg (_ ++ ·) (ih _ _)

theorem effects_of_quiet {pass : Pass α} (quiet : pass.AsksOnly PassQuery.IsQuiet)
    (world : Surroundings) : pass.effects world = [] := by
  induction pass generalizing world with
  | done value => rfl
  | ask query next ih =>
      have unseen : query.isEffect = false := quiet.1
      rw [effects, unseen, ih _ (quiet.2 _)]
      rfl

theorem ignoresIndex_pure (value : α) (world : Surroundings) :
    (pure value : Pass α).IgnoresIndex world :=
  fun index => ⟨rfl, ⟨index, rfl⟩, rfl⟩

theorem ignoresIndex_bind {first : Pass β} {rest : β → Pass α}
    (ignores : first.IgnoresIndex world)
    (rest_ignores : (rest (first.run world).1).IgnoresIndex (first.run world).2) :
    (first >>= rest).IgnoresIndex world := by
  intro index
  obtain ⟨value, ⟨later, surroundings⟩, effects⟩ := ignores index
  obtain ⟨last_value, last, last_effects⟩ := rest_ignores later
  constructor
  · rw [run_bind, run_bind, value, surroundings, last_value]
  · rw [run_bind, run_bind, value, surroundings]
    exact last
  · rw [effects_bind, effects_bind, value, surroundings, effects, last_effects]

end Pass

theorem Attempt.ignoresIndex_bind {first : Attempt β} {rest : β → Attempt α}
    (ignores : first.run.IgnoresIndex world)
    (rest_ignores : ∀ value later, first.run.run world = (.ok value, later) →
      (rest value).run.IgnoresIndex later) :
    (first >>= rest).run.IgnoresIndex world := by
  refine Pass.ignoresIndex_bind ignores ?_
  change Pass.IgnoresIndex (ExceptT.bindCont rest (first.run.run world).1) (first.run.run world).2
  rcases ran : first.run.run world with ⟨value | value, later⟩
  · exact Pass.ignoresIndex_pure _ later
  · exact rest_ignores value later ran

/-! ## Passes that do not ask the index -/

/-- A query that does not ask the index. -/
def PassQuery.IsIndexFree : PassQuery → Prop
  | .bindingsFor _ | .machinesFor _ => False
  | _ => True

theorem PassQuery.IsDirect.indexFree {query : PassQuery} (direct : query.IsDirect) :
    query.IsIndexFree := by
  unfold PassQuery.IsIndexFree
  split
  · exact direct
  · exact direct
  · trivial

theorem Surroundings.answer_withIndex {query : PassQuery} (free : query.IsIndexFree)
    (world : Surroundings) (index : Index) : ∃ later,
      Surroundings.answer query (world.withIndex index) =
        ((Surroundings.answer query world).1,
          (Surroundings.answer query world).2.withIndex later) := by
  cases query with
  | bindingsFor | machinesFor => exact free.elim
  | learn event => exact ⟨index.learn event, rfl⟩
  | _ => exact ⟨index, rfl⟩

namespace Pass

/-- A pass that does not ask the index does the same whatever the index says. -/
theorem ignoresIndex_of_indexFree {pass : Pass α} (free : pass.AsksOnly PassQuery.IsIndexFree)
    (world : Surroundings) : pass.IgnoresIndex world := by
  induction pass generalizing world with
  | done value => exact ignoresIndex_pure value world
  | ask query next ih =>
      intro index
      obtain ⟨later, answered⟩ := Surroundings.answer_withIndex free.1 world index
      obtain ⟨value, surroundings, effects⟩ :=
        ih _ (free.2 (Surroundings.answer query world).1) (Surroundings.answer query world).2 later
      have ran := run_ask query next (world.withIndex index)
      rw [answered] at ran
      refine ⟨?_, ?_, ?_⟩
      · rw [ran, value, run_ask]
      · rw [ran, run_ask]
        exact surroundings
      · rw [Pass.effects, Pass.effects, answered, effects]

theorem ignoresIndex_of_direct {pass : Pass α} (direct : pass.IsDirect) (world : Surroundings) :
    pass.IgnoresIndex world :=
  ignoresIndex_of_indexFree (Program.AsksOnly.weaken direct fun _ => PassQuery.IsDirect.indexFree)
    world

theorem ignoresIndex_learn (event : Index.Event) (world : Surroundings) :
    (Pass.learn event).IgnoresIndex world :=
  fun index => ⟨rfl, ⟨index.learn event, rfl⟩, rfl⟩

/-- A look-up gives the same whatever the index says. -/
theorem ignoresIndex_get_bind {call : StoreCall} {what : String}
    {look : Store → Option call.Result} {rest : call.Reply → Pass α}
    (reads : ∀ now : Store, now.perform call = (Store.found what (look now), now))
    (present : ∀ object, look world.store = some object → (rest (.ok object)).IgnoresIndex world)
    (missing : look world.store = none → (rest (.error (.notFound what))).IgnoresIndex world) :
    (Pass.call call >>= rest).IgnoresIndex world := by
  refine ignoresIndex_bind (fun index => ⟨rfl, ⟨index, rfl⟩, rfl⟩) ?_
  change (rest (world.store.perform call).1).IgnoresIndex
    (world.withStore (world.store.perform call).2)
  rw [reads]
  cases found : look world.store with
  | some object => exact present object found
  | none => exact missing found

end Pass

/-! ## Machines that hold at most one server -/

/-- A machine holds at most one server. -/
def Store.HoldsAtMostOne (store : Store) (machine : ObjectKey) : Prop :=
  ∀ server other, store.Holds machine server → store.Holds machine other → server = other

theorem Store.holds_of_heldUnder? {store : Store} {name : String} {binding : ServerBinding}
    (held : store.heldUnder? key name = some binding) : store.Holds key name :=
  ⟨binding, heldUnder?_eq_some_iff.1 held⟩

/-- Of several names, each once, only one is found. -/
theorem filterMap_eq_of_single {names : List String} {look : String → Option β} {name : String}
    {found : β} (distinct : names.Pairwise (· < ·)) (member : name ∈ names)
    (looked : look name = some found) (others : ∀ other, other ≠ name → look other = none) :
    names.filterMap look = [found] := by
  induction names with
  | nil => exact nomatch member
  | cons first rest ih =>
      obtain ⟨before, rest_distinct⟩ := List.pairwise_cons.1 distinct
      by_cases same : first = name
      · subst same
        have rest_none : rest.filterMap look = [] := List.filterMap_eq_nil_iff.2 fun other among =>
          others other fun same => Std.lt_irrefl (same ▸ before other among)
        rw [List.filterMap_cons_some looked, rest_none]
      · rw [List.filterMap_cons_none (others first same)]
        exact ih rest_distinct ((List.mem_cons.1 member).resolve_left (Ne.symm same))

/-- The bindings of a machine among all are those that are found under any name. -/
theorem bindingsOf_values (store : Store) (machine : ObjectKey) :
    bindingsOf machine store.serverBindings.values =
      store.serverBindings.keys.filterMap (store.heldUnder? machine) := by
  have found : ∀ entry ∈ store.serverBindings.entries, store.heldUnder? machine entry.1 =
      Option.guard (fun binding => binding.isHeldBy machine) entry.2 := by
    intro entry member
    rw [heldUnder?, Dict.get?_eq_some_iff.2 member]
    rfl
  unfold bindingsOf Dict.values Dict.keys
  rw [← List.filterMap_eq_filter, List.filterMap_map, List.filterMap_map]
  exact List.filterMap_congr fun entry member => (found entry member).symm

/-- A look finds the one binding of a machine whatever the index says. -/
theorem Surroundings.held_eq (single : world.store.HoldsAtMostOne key) : world.held key =
    (bindingsOf key world.store.serverBindings.values).mergeSort ServerBinding.inNameOrder := by
  unfold held
  split
  · rfl
  · rename_i knows
    congr 1
    obtain ⟨binding, member⟩ := List.exists_mem_of_ne_nil (world.known key) (by simpa using knows)
    obtain ⟨name, known, found⟩ := mem_known.1 member
    have others : ∀ other, other ≠ name → world.store.heldUnder? key other = none := by
      refine fun other differs => Option.eq_none_iff_forall_ne_some.2 fun present held => ?_
      exact differs (single other name (holds_of_heldUnder? held) (holds_of_heldUnder? found))
    have stored : name ∈ world.store.serverBindings.keys :=
      Dict.mem_keys.2 ⟨binding, (heldUnder?_eq_some_iff.1 found).1⟩
    rw [bindingsOf_values, filterMap_eq_of_single (Dict.pairwise_keys _) stored found others]
    exact filterMap_eq_of_single (Dict.pairwise_keys _) known found others

theorem heldBindings_ignoresIndex (single : world.store.HoldsAtMostOne key) :
    (heldBindings key).run.IgnoresIndex world := by
  intro index
  have same : (world.withIndex index).held key = world.held key := by
    rw [Surroundings.held_eq single]
    exact Surroundings.held_eq single
  constructor
  · rw [heldBindings_run, heldBindings_run, same]
  · rw [heldBindings_run, heldBindings_run]
    exact ⟨_, rfl⟩
  · rw [Pass.effects_of_quiet (heldBindings_quiet key),
      Pass.effects_of_quiet (heldBindings_quiet key)]

/-! ## Passes over machines -/

theorem deleteBindings_indexFree (names : List String) :
    (deleteBindings names).AsksOnly PassQuery.IsIndexFree := by
  induction names with
  | nil => trivial
  | cons name rest ih =>
      exact Attempt.asks_bind (Attempt.asks_attemptCall trivial) fun _ =>
        Attempt.asks_learn_bind trivial ih

theorem deleteHeldBindings_ignoresIndex (single : world.store.HoldsAtMostOne machine.key) :
    (deleteHeldBindings machine).run.IgnoresIndex world := by
  refine Attempt.ignoresIndex_bind (heldBindings_ignoresIndex single) fun held later _ => ?_
  refine Attempt.ignoresIndex_bind
    (Pass.ignoresIndex_of_direct (heldNamedServer_plain machine).direct later) fun named last _ => ?_
  refine Attempt.ignoresIndex_bind
    (Pass.ignoresIndex_of_indexFree (deleteBindings_indexFree _) last) fun _ done _ => ?_
  exact Pass.ignoresIndex_pure _ done

theorem release_ignoresIndex (single : world.store.HoldsAtMostOne machine.key) :
    (release machine).IgnoresIndex world := by
  refine Pass.ignoresIndex_bind (deleteHeldBindings_ignoresIndex single) ?_
  split <;> exact Pass.ignoresIndex_pure _ _

theorem serverFromClass_ignoresIndex (single : world.store.HoldsAtMostOne machine.key) :
    (serverFromClass machine).run.IgnoresIndex world := by
  refine Attempt.ignoresIndex_bind (heldBindings_ignoresIndex single) fun held later _ => ?_
  split
  · exact Pass.ignoresIndex_pure _ later
  · split
    · exact Pass.ignoresIndex_pure _ later
    · exact Pass.ignoresIndex_of_direct (claimFromClass_direct machine _) later

theorem allocate_ignoresIndex (single : world.store.HoldsAtMostOne machine.key)
    (cluster : ObjectKey) : (allocate machine cluster).IgnoresIndex world := by
  unfold allocate
  dsimp only
  split
  · exact Pass.ignoresIndex_pure _ world
  · refine Pass.ignoresIndex_bind (Pass.ignoresIndex_of_direct (ensureNamed_direct _ _) world) ?_
    split
    · exact Pass.ignoresIndex_pure _ _
    · exact Pass.ignoresIndex_pure _ _
    · exact Pass.ignoresIndex_of_direct (reportReady_plain _ _ _).direct _
  · have same_key : machine.addFinalizer.clearInvalid.key = machine.key := by simp
    have copy_single := same_key.symm ▸ single
    refine Pass.ignoresIndex_bind (serverFromClass_ignoresIndex copy_single) ?_
    split
    · exact Pass.ignoresIndex_pure _ _
    · refine Pass.ignoresIndex_of_direct ?_ _
      exact ⟨trivial, fun _ => trivial⟩
    · exact Pass.ignoresIndex_of_direct (reportReady_plain _ _ _).direct _

theorem withCommit_ignoresIndex
    {work : MetalMachine → Pass (Except PassError Outcome × MetalMachine)}
    (ignores : (work machine).IgnoresIndex world) :
    (withCommit machine work).IgnoresIndex world :=
  Pass.ignoresIndex_bind ignores (Pass.ignoresIndex_of_direct (finishMachine_direct machine _ _) _)

theorem currentMachinePass_ignoresIndex (single : world.store.HoldsAtMostOne machine.key)
    (key : ObjectKey) : (currentMachinePass key machine).IgnoresIndex world := by
  unfold currentMachinePass
  split
  · split
    · exact withCommit_ignoresIndex (release_ignoresIndex single)
    · exact Pass.ignoresIndex_pure _ world
  · refine Pass.ignoresIndex_bind
      (Pass.ignoresIndex_of_direct (gates_plain key machine).direct world) ?_
    have reads : (gates key machine).Secures alone _ world.store := gates_secures key machine
    have same_store : world.store = ((gates key machine).run.run world).2.store :=
      (reads.run trivial).2
    split
    · exact Pass.ignoresIndex_pure _ _
    · exact Pass.ignoresIndex_pure _ _
    · exact withCommit_ignoresIndex (allocate_ignoresIndex (same_store ▸ single) _)

/-- Whatever the index says, a pass over a machine that holds at most one server gives the same
result and does the same to the objects, the workload nodes and the counters. -/
theorem machinePass_sameRun (arises : world.store.Arises)
    (single : world.store.HoldsAtMostOne key) (first second : Index) :
    (machinePass key).SameRun (world.withIndex first) (world.withIndex second) := by
  refine Pass.ignoresIndex_get_bind (fun _ => rfl) ?present ?missing second
  case present =>
    intro machine found
    have keyed : machine.key = key := arises.wellKept.machine_key key machine found
    refine Pass.ignoresIndex_bind (Pass.ignoresIndex_learn _ _) ?_
    exact currentMachinePass_ignoresIndex (keyed.symm ▸ single) key
  case missing =>
    exact fun _ => Pass.ignoresIndex_bind (Pass.ignoresIndex_learn _ _)
      (Pass.ignoresIndex_pure _ _)

/-- A store with a machine that holds a server and does not name it yet. -/
def unnamed : Store :=
  ((Laboratory.store ["s", "t"]).addMetalMachine
    (Laboratory.machine "a" { serverClassRef := some (.ofName "pool") })).addServerBinding
      (claim (Laboratory.machine "a" {}) "s" none)

/-- An index that knows a binding which is gone and takes another machine for the holder of the
server. -/
def misled : Index :=
  (({} : Index).applyBinding (claim (Laboratory.machine "a" {}) "gone" none)).applyBinding
    (claim (Laboratory.machine "b" {}) "s" none)

theorem unnamed_arises : unnamed.Arises :=
  ((Laboratory.store_arises ["s", "t"]).addMetalMachine _).addServerBinding _

theorem unnamed_holdsAtMostOne : unnamed.HoldsAtMostOne (Laboratory.key "a") := by
  have only_one : unnamed.serverBindings.entries.all (fun entry => entry.1 == "s") = true := by
    decide +kernel
  have named : ∀ server, unnamed.Holds (Laboratory.key "a") server → server = "s" := by
    rintro server ⟨binding, found, _⟩
    simpa using List.all_eq_true.1 only_one _ (Dict.get?_eq_some_iff.1 found)
  exact fun server other holds holds_too => (named server holds).trans (named other holds_too).symm

/-- With an empty index and with a misleading one the pass writes the machine once and its status
not at all. -/
theorem machinePass_sameRun_misled : unnamed.Arises ∧
    unnamed.HoldsAtMostOne (Laboratory.key "a") ∧
      ((machinePass (Laboratory.key "a")).effects
        (Laboratory.surroundings unnamed misled)).length = 1 ∧
        (machinePass (Laboratory.key "a")).SameRun (Laboratory.surroundings unnamed {})
          (Laboratory.surroundings unnamed misled) :=
  have single : (Laboratory.surroundings unnamed {}).store.HoldsAtMostOne (Laboratory.key "a") :=
    unnamed_holdsAtMostOne
  ⟨unnamed_arises, single, by decide +kernel, machinePass_sameRun unnamed_arises single {} misled⟩

end BareMetal
