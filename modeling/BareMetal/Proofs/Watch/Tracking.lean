import BareMetal.Proofs.Pass.Habits
import BareMetal.Proofs.Watch.Starting

/-!
# An index that tracks its store

Each binding that a pass creates or deletes is told to the index at once, and whatever else a pass
tells of bindings is what it just found in the store.  So an index that answers about bindings as a
scan of the store would still does after any pass, however that ends.
-/

namespace BareMetal

open Store

variable {α β : Type} {world : Surroundings} {name : String} {binding : ServerBinding}

/-! ## Steps -/

/-- An allocator's index has noted of each name in the store the machine that holds the binding
there, and nothing else of bindings. -/
structure Surroundings.Tracks (world : Surroundings) : Prop where
  /-- Bindings go by the names that they lie under. -/
  named : world.store.NamesBindings
  /-- The index has noted the machines that hold them. -/
  noted : ∀ name, world.memory.index.holders.forth.get? name =
    (world.store.serverBindings.get? name).map ServerBinding.holder

/-- A query by which no binding comes or goes and that tells the index of none. -/
def PassQuery.IsDiscreet : PassQuery → Prop
  | .store (.createServerBinding _) | .store (.deleteServerBinding _) => False
  | .learn event => event.isOfBindings = false
  | _ => True

namespace Index

/-- An index that is told of a binding notes the machine that holds it. -/
theorem get?_bindingSeen (index : Index) (binding : ServerBinding) (name : String) :
    (index.learn (.bindingSeen binding)).holders.forth.get? name =
      if name = binding.anyName then some binding.holder else index.holders.forth.get? name :=
  (congrArg (Dict.get? · name) (index.holders_applyBinding binding)).trans
    (Table.holders.get?_note index.holders.forth binding name)

theorem get?_bindingGone (index : Index) (gone name : String) :
    (index.learn (.bindingGone gone)).holders.forth.get? name =
      if name = gone then none else index.holders.forth.get? name := by
  change (index.holders.forth.erase gone).get? name = _
  split
  · rename_i same
    rw [same, Dict.get?_erase_self]
  · rename_i differs
    rw [Dict.get?_erase_of_ne differs]

end Index

namespace Surroundings.Tracks

theorem tellsBindings (tracks : world.Tracks) : world.memory.index.TellsBindings world.store :=
  (Index.tellsBindings_iff tracks.named).2 tracks.noted

/-- A binding that is stored may be told of. -/
theorem seen (tracks : world.Tracks) (found : world.store.serverBindings.get? name = some binding) :
    (world.withIndex (world.memory.index.learn (.bindingSeen binding))).Tracks where
  named := tracks.named
  noted other := by
    rw [index_withIndex, store_withIndex, Index.get?_bindingSeen, tracks.named name binding found]
    split
    · rename_i same
      rw [same, found]
      rfl
    · exact tracks.noted other

/-- That there is no binding of a name may be told. -/
theorem gone (tracks : world.Tracks) (absent : world.store.serverBindings.get? name = none) :
    (world.withIndex (world.memory.index.learn (.bindingGone name))).Tracks where
  named := tracks.named
  noted other := by
    rw [index_withIndex, store_withIndex, Index.get?_bindingGone]
    split
    · rename_i same
      rw [same, absent]
      rfl
    · exact tracks.noted other

/-- A binding that is created is told of. -/
theorem created (tracks : world.Tracks) {server : String}
    (claimed : binding.metadata.name = some server) :
    ((world.withStore (world.store.withCreated binding)).withIndex (world.memory.index.learn
      (.bindingSeen (world.store.createdBinding binding)))).Tracks := by
  have at_server : (world.store.createdBinding binding).anyName = server := by
    simp [ServerBinding.anyName, Metadata.anyName, createdBinding, claimed]
  have inserted : (world.store.withCreated binding).serverBindings =
      world.store.serverBindings.insert server (world.store.createdBinding binding) := by
    simp [withCreated, claimed]
  constructor
  · intro other present found
    rw [store_withIndex, store_withStore, inserted, Dict.get?_insert_eq_some] at found
    rcases found with ⟨rfl, rfl⟩ | ⟨-, found⟩
    · exact at_server
    · exact tracks.named other present found
  · intro other
    rw [index_withIndex, store_withIndex, store_withStore, inserted, Index.get?_bindingSeen,
      at_server, Dict.get?_insert]
    split
    · rfl
    · exact tracks.noted other

/-- A binding that is deleted is told to be gone. -/
theorem deleted (tracks : world.Tracks) (name : String) :
    ((world.withStore { world.store with
        serverBindings := world.store.serverBindings.erase name }).withIndex
      (world.memory.index.learn (.bindingGone name))).Tracks where
  named other present found := tracks.named other present (Dict.get?_erase_eq_some.1 found).2
  noted other := by
    rw [index_withIndex, store_withIndex, store_withStore, Index.get?_bindingGone]
    split
    · rename_i same
      rw [same, Dict.get?_erase_self]
      rfl
    · rename_i differs
      rw [Dict.get?_erase_of_ne differs]
      exact tracks.noted other

/-- A change of status is none that the index has to know of. -/
theorem statusChanged (tracks : world.Tracks) {status : ServerBindingStatus}
    {reply : Except StoreError Unit} {after : Store}
    (change : BindingStatusChange world.store name status reply after) :
    (world.withStore after).Tracks := by
  cases change with
  | gone => exact tracks
  | @changed binding found =>
      have inserted : (world.store.withBinding name
          (world.store.bindingWithStatus binding status)).serverBindings =
            world.store.serverBindings.insert name
              (world.store.bindingWithStatus binding status) := rfl
      constructor
      · intro other present found_after
        rw [store_withStore, inserted, Dict.get?_insert_eq_some] at found_after
        rcases found_after with ⟨rfl, rfl⟩ | ⟨-, found_before⟩
        · exact (tracks.named _ _ found : binding.anyName = _)
        · exact tracks.named other present found_before
      · intro other
        rw [index_withStore, tracks.noted other, store_withStore, inserted, Dict.get?_insert]
        split
        · rename_i same
          rw [same, found]
          rfl
        · rfl

theorem answer_store (tracks : world.Tracks) {call : StoreCall}
    (discreet : (PassQuery.store call).IsDiscreet) :
    (world.withStore (world.store.perform call).2).Tracks := by
  cases writes : writesBindings call with
  | false =>
      have same := world.store.perform_serverBindings writes
      exact ⟨fun other present found => tracks.named other present (same ▸ found),
        fun other => (tracks.noted other).trans (by rw [store_withStore, same])⟩
  | true =>
      cases call with
      | createServerBinding | deleteServerBinding => exact discreet.elim
      | updateServerBindingStatus name status =>
          exact tracks.statusChanged (world.store.bindingStatusChange name status)
      | _ => exact nomatch writes

/-- What the answer to a discreet query leaves is tracked. -/
theorem answer (tracks : world.Tracks) {query : PassQuery} (discreet : query.IsDiscreet) :
    (Surroundings.answer query world).2.Tracks := by
  cases query with
  | store call => exact tracks.answer_store discreet
  | learn event =>
      refine ⟨tracks.named, fun other => ?_⟩
      exact (congrArg (·.forth.get? other) (Index.holders_learn event discreet)).trans
        (tracks.noted other)
  | _ => exact ⟨tracks.named, tracks.noted⟩

end Surroundings.Tracks

/-! ## Passes -/

/-- The index still tracks the store after a pass if it did before. -/
def Pass.KeepsTrack (pass : Pass α) : Prop := ∀ world, world.Tracks → (pass.run world).2.Tracks

/-- The index still tracks the store after an attempt if it did before. -/
abbrev Attempt.KeepsTrack (attempt : Attempt α) : Prop := Pass.KeepsTrack attempt.run

theorem Pass.keepsTrack_bind {first : Pass β} {rest : β → Pass α} (keeps : first.KeepsTrack)
    (keeps_rest : ∀ value, (rest value).KeepsTrack) : (first >>= rest).KeepsTrack := by
  intro world tracks
  rw [Pass.run_bind]
  exact keeps_rest _ _ (keeps world tracks)

/-- A discreet pass keeps track, because each of its queries does. -/
theorem Pass.keepsTrack_of_discreet {pass : Pass α}
    (discreet : pass.AsksOnly PassQuery.IsDiscreet) : pass.KeepsTrack := by
  induction pass with
  | done value => exact fun world tracks => tracks
  | ask query next ih => exact fun world tracks => ih _ (discreet.2 _) _ (tracks.answer discreet.1)

theorem PassQuery.IsPlain.discreet {query : PassQuery} (plain : query.IsPlain) :
    query.IsDiscreet := by
  unfold PassQuery.IsDiscreet
  split
  · exact plain
  · exact plain
  · exact plain.elim
  · trivial

theorem Pass.IsPlain.keepsTrack {pass : Pass α} (plain : pass.IsPlain) : pass.KeepsTrack :=
  Pass.keepsTrack_of_discreet (Program.AsksOnly.weaken plain fun _ => PassQuery.IsPlain.discreet)

/-- A claim keeps track if it is told to the index as soon as it is made. -/
theorem Pass.keepsTrack_claim_bind {machine : MetalMachine} {server : String}
    {reference : Option Reference} {rest : Except StoreError ServerBinding → Pass α}
    {claimed : Pass α} (tells : ∀ binding, rest (.ok binding) = do
      Pass.learn (.bindingSeen binding)
      claimed) (keeps : claimed.KeepsTrack)
    (keeps_failed : ∀ error, (rest (.error error)).KeepsTrack) :
    (Pass.call (.createServerBinding (claim machine server reference)) >>= rest).KeepsTrack := by
  intro world tracks
  rw [Pass.run_call_bind]
  have creation := world.store.creation (claim machine server reference)
  change ((rest (world.store.createServerBinding _).1).run
    (world.withStore (world.store.createServerBinding _).2)).2.Tracks
  generalize world.store.createServerBinding _ = made at creation
  obtain ⟨reply, after⟩ := made
  cases creation with
  | refused fails => exact keeps_failed _ world tracks
  | taken found what => exact keeps_failed _ world tracks
  | created free =>
      -- Between creating the binding and telling of it the index lags behind, so both are one step.
      rw [tells]
      exact keeps _ (tracks.created rfl)

theorem Pass.keepsTrack_habit : Pass.Habit @Pass.KeepsTrack where
  plain := Pass.IsPlain.keepsTrack
  bind := Pass.keepsTrack_bind
  update _ := Pass.keepsTrack_of_discreet ⟨trivial, fun _ => trivial⟩
  claims := Pass.keepsTrack_claim_bind

/-! ## Looking for bindings and machines -/

namespace Surroundings.Tracks

theorem withIndex_forget (tracks : world.Tracks) (names : List String) :
    (world.withIndex (world.store.forget names world.memory.index)).Tracks := by
  induction names generalizing world with
  | nil => exact tracks
  | cons name rest ih =>
      unfold forget
      rw [List.foldl_cons]
      split
      · rename_i absent
        exact ih (tracks.gone (Option.isNone_iff_eq_none.1 absent))
      · exact ih tracks

theorem withIndex_seen (tracks : world.Tracks) {bindings : List ServerBinding}
    (stored : ∀ binding ∈ bindings, binding ∈ world.store.serverBindings.values) :
    (world.withIndex
      ((bindings.map .bindingSeen).foldl Index.learn world.memory.index)).Tracks := by
  induction bindings generalizing world with
  | nil => exact tracks
  | cons binding rest ih =>
      rw [List.forall_mem_cons] at stored
      obtain ⟨name, found⟩ := Dict.mem_values.1 stored.1
      exact ih (tracks.seen found) stored.2

theorem withIndex_afterLook (tracks : world.Tracks) (machine : ObjectKey) :
    (world.withIndex (world.indexAfterLook machine)).Tracks := by
  have checked := tracks.withIndex_forget (world.memory.index.bindingsFor machine)
  unfold indexAfterLook
  dsimp only
  split
  · exact checked.withIndex_seen fun binding member => (List.mem_filter.1 member).1
  · exact checked

end Surroundings.Tracks

theorem heldBindings_keepsTrack (machine : ObjectKey) : (heldBindings machine).KeepsTrack := by
  intro world tracks
  rw [heldBindings_run]
  exact tracks.withIndex_afterLook machine

theorem namingMachines_keepsTrack (server : String) : (namingMachines server).KeepsTrack := by
  refine Pass.keepsTrack_of_discreet (namingMachines_asks ?_ (fun _ => rfl) (fun _ => rfl) server
    trivial)
  intro call reads
  cases call with
  | createServerBinding | deleteServerBinding => exact nomatch reads
  | _ => trivial

/-! ## Whole passes -/

theorem deleteBindings_keepsTrack (names : List String) : (deleteBindings names).KeepsTrack := by
  induction names with
  | nil => exact fun world tracks => tracks
  | cons name rest ih => exact fun world tracks => ih _ (tracks.deleted name)

theorem release_keepsTrack (machine : MetalMachine) : (release machine).KeepsTrack := by
  have habit := Pass.keepsTrack_habit
  refine habit.bind ?_ fun deleted => by split <;> exact habit.pure _
  refine habit.attempt_bind (heldBindings_keepsTrack machine.key) fun held => ?_
  refine habit.attempt_bind (habit.plain (heldNamedServer_plain machine)) fun named => ?_
  exact habit.attempt_bind (deleteBindings_keepsTrack _) fun _ => habit.pure _

theorem machinePass_keepsTrack (key : ObjectKey) : (machinePass key).KeepsTrack := by
  have habit := Pass.keepsTrack_habit
  have learns : ∀ event : Index.Event, event.isOfBindings = false →
      (Pass.learn event).KeepsTrack :=
    fun event of_machines => Pass.keepsTrack_of_discreet ⟨of_machines, fun _ => trivial⟩
  refine habit.call_bind trivial fun reply => ?_
  split
  · rename_i machine
    refine habit.bind (learns _ rfl) fun _ => ?_
    exact habit.currentMachinePass heldBindings_keepsTrack (fun _ => release_keepsTrack machine) key
  · exact habit.bind (learns _ rfl) fun _ => habit.pure _
  · exact habit.pure _

theorem bindingPass_keepsTrack (name : String) : (bindingPass name).KeepsTrack := by
  have habit := Pass.keepsTrack_habit
  intro world tracks
  unfold bindingPass
  rw [Pass.run_get_bind _ world fun _ => rfl]
  cases found : world.store.serverBindings.get? name with
  | none => exact tracks.gone found
  | some binding =>
      have refreshes := habit.bind (habit.plain (refreshReadiness_plain binding)) fun now =>
        habit.plain (finishBinding_plain binding now.2 now.1)
      exact refreshes _ (tracks.seen found)

theorem Subject.pass_keepsTrack (subject : Subject) : subject.pass.KeepsTrack := by
  cases subject with
  | machine key => exact machinePass_keepsTrack key
  | binding name => exact bindingPass_keepsTrack name
  | server name => exact Pass.keepsTrack_habit.serverPass (namingMachines_keepsTrack name)
  | serverClass name => exact (classPass_plain name).keepsTrack

/-! ## Answers after a pass -/

/-- In a store whose bindings go by the names that they lie under, an index that answers about
bindings as the store would still does after any one pass over any object, whatever comes of the
pass.  Starting up succeeds and makes an index answer as the store would about bindings and about
machines, whatever it said before. -/
theorem own_passes_keep_index :
    (∀ (subject : Subject) (world : Surroundings), world.store.NamesBindings →
      world.memory.index.TellsBindings world.store →
        (subject.pass.run world).2.store.NamesBindings ∧
        (subject.pass.run world).2.memory.index.TellsBindings (subject.pass.run world).2.store) ∧
    ∀ world : Surroundings, world.store.NamesBindings → world.store.KeysMachines →
      (startup.run.run world).1 = .ok () ∧
      (startup.run.run world).2.memory.index.TellsBindings (startup.run.run world).2.store ∧
      (startup.run.run world).2.memory.index.TellsMachines (startup.run.run world).2.store := by
  refine ⟨fun subject world named tells => ?_, fun world => startup_tells⟩
  have tracks := subject.pass_keepsTrack world ⟨named, (Index.tellsBindings_iff named).1 tells⟩
  exact ⟨tracks.named, tracks.tellsBindings⟩

namespace Laboratory

/-- A machine names a server that no binding is there for, and another machine holds a server. -/
def widowed : Store :=
  ((store ["a"]).addMetalMachine naming).addServerBinding (bound "b" "n")

theorem widowed_arises : widowed.Arises :=
  ((store_arises ["a"]).addMetalMachine naming).addServerBinding _

/-- An allocator whose index is out of date. -/
def outdated : Surroundings :=
  surroundings widowed (({} : Index).learn (.bindingSeen (bound "z" "m")))

/-- The allocator after it started up. -/
def started : Surroundings := (startup.run.run outdated).2

/-- The allocator after a pass over the server without a binding. -/
def healed : Surroundings := ((Subject.server "a").pass.run started).2

end Laboratory

/-- The allocator forgets at its start a binding that is not there, and knows the one that it
creates for the machine that names the server. -/
theorem own_passes_keep_index_started :
    Laboratory.outdated.store.NamesBindings ∧ Laboratory.outdated.store.KeysMachines ∧
    Laboratory.outdated.memory.index.bindingsFor (Laboratory.key "m") = ["z"] ∧
    Laboratory.started.store.NamesBindings ∧
    Laboratory.started.memory.index.TellsBindings Laboratory.started.store ∧
    Laboratory.started.memory.index.TellsMachines Laboratory.started.store ∧
    Laboratory.started.memory.index.bindingsFor (Laboratory.key "m") = [] ∧
    Laboratory.healed.memory.index.TellsBindings Laboratory.healed.store ∧
    Laboratory.healed.memory.index.bindingsFor (Laboratory.key "m") = ["a"] := by
  have named : Laboratory.outdated.store.NamesBindings := namesBindings_of_all (by decide +kernel)
  have keyed : Laboratory.outdated.store.KeysMachines := Laboratory.widowed_arises.keysMachines
  have named_started : Laboratory.started.store.NamesBindings :=
    namesBindings_of_all (by decide +kernel)
  obtain ⟨-, tells, tells_machines⟩ := own_passes_keep_index.2 Laboratory.outdated named keyed
  refine ⟨named, keyed, by decide +kernel, named_started, tells, tells_machines,
    by decide +kernel, ?_, by decide +kernel⟩
  exact (own_passes_keep_index.1 (.server "a") Laboratory.started named_started tells).2

end BareMetal
