import BareMetal.Proofs.Names
import BareMetal.Proofs.Watch.Answering

/-!
# What an index remembers

An index is told of bindings and machines, one event after the other.  A listing makes it forget what
it was told before of bindings, or of machines, and then tells of each object in the list.  So the
index answers from the last word about each object since the last listing.  What it is told of
bindings makes no difference to what it answers about machines, nor the other way round.
-/

namespace BareMetal

/-! ## The last word about an object -/

/-- A change of one object of a collection. -/
inductive Change (α κ : Type) where
  /-- An object was created or changed. -/
  | applied (object : α)
  /-- The object of a key is gone. -/
  | removed (key : κ)

namespace Table

variable {α κ τ : Type} {table : Table α κ τ} {changes : List (Change α κ)} {change : Change α κ}
  {object : α}

/-- The key of the object that a change is about. -/
def subject (table : Table α κ τ) : Change α κ → κ
  | .applied object => table.key object
  | .removed key => key

/-- Of all changes of objects with its key, the last one applied an object. -/
def IsLatest (table : Table α κ τ) (changes : List (Change α κ)) (object : α) : Prop :=
  Since (fun _ change => change = .applied object)
    (fun change => table.subject change = table.key object) changes

theorem isLatest_append_singleton : table.IsLatest (changes ++ [change]) object ↔
    table.IsLatest changes object ∧ table.subject change ≠ table.key object ∨
      change = .applied object :=
  since_append_singleton

variable [Ord κ] [Std.LawfulEqOrd κ] [Std.TransOrd κ]

/-- The entries after a change. -/
def apply (table : Table α κ τ) (entries : Dict κ τ) : Change α κ → Dict κ τ
  | .applied object => table.note entries object
  | .removed key => entries.erase key

/-- A change decides what is found under the key of its object, and under no other key. -/
theorem get?_apply [DecidableEq κ] (table : Table α κ τ) (entries : Dict κ τ)
    (change : Change α κ) (key : κ) : (table.apply entries change).get? key =
      if key = table.subject change then
        match change with
        | .applied object => table.entry? object
        | .removed _ => none
      else entries.get? key := by
  cases change with
  | applied object => exact table.get?_note entries object key
  | removed gone =>
      by_cases same : key = gone
      · simp [apply, subject, same]
      · simp [apply, subject, same, Dict.get?_erase_of_ne same]

/-- After several changes, what is found under a key is what is noted of the object that was applied
last. -/
theorem get?_foldl_apply [DecidableEq κ] (table : Table α κ τ) (changes : List (Change α κ))
    (key : κ) (target : τ) : (changes.foldl table.apply Dict.empty).get? key = some target ↔
      ∃ object, table.IsLatest changes object ∧ table.key object = key ∧
        table.entry? object = some target := by
  -- From the end of the list, because the last change of a key decides.
  induction changes using List.reverseRecOn with
  | nil => exact iff_of_false nofun fun ⟨_, latest, _⟩ => not_since_nil latest
  | append_singleton earlier change ih =>
      rw [List.foldl_append, List.foldl_cons, List.foldl_nil, get?_apply]
      simp only [isLatest_append_singleton]
      by_cases same : key = table.subject change
      · subst same
        rw [if_pos rfl]
        cases change with
        | applied object =>
            constructor
            · intro noted
              exact ⟨object, .inr rfl, rfl, noted⟩
            · rintro ⟨other, ⟨-, differs⟩ | same, same_key, noted⟩
              · exact absurd same_key.symm differs
              · cases same
                exact noted
        | removed gone =>
            refine iff_of_false nofun ?_
            rintro ⟨other, ⟨-, differs⟩ | same, same_key, -⟩
            · exact differs same_key.symm
            · exact nomatch same
      · rw [if_neg same, ih]
        constructor
        · rintro ⟨object, latest, rfl, noted⟩
          exact ⟨object, .inl ⟨latest, Ne.symm same⟩, rfl, noted⟩
        · rintro ⟨object, ⟨latest, -⟩ | rfl, rfl, noted⟩
          · exact ⟨object, latest, rfl, noted⟩
          · exact absurd rfl same

end Table

/-! ## What events tell -/

namespace Index

variable {index : Index}

/-- Whether an event tells of bindings, and not of machines. -/
def Event.isOfBindings : Event → Bool
  | .bindingSeen _ | .bindingGone _ | .bindingsListed _ => true
  | .machineSeen _ | .machineGone _ | .machinesListed _ => false

/-- The changes of bindings since these were last listed, after another event. -/
def Event.tellBindings (changes : List (Change ServerBinding String)) :
    Event → List (Change ServerBinding String)
  | .bindingSeen binding => changes ++ [.applied binding]
  | .bindingGone name => changes ++ [.removed name]
  | .bindingsListed bindings => bindings.map .applied
  | .machineSeen _ | .machineGone _ | .machinesListed _ => changes

/-- The changes of machines since these were last listed, after another event. -/
def Event.tellMachines (changes : List (Change MetalMachine ObjectKey)) :
    Event → List (Change MetalMachine ObjectKey)
  | .machineSeen machine => changes ++ [.applied machine]
  | .machineGone key => changes ++ [.removed key]
  | .machinesListed machines => machines.map .applied
  | .bindingSeen _ | .bindingGone _ | .bindingsListed _ => changes

/-- The changes of bindings that events tell of since bindings were last listed. -/
def bindingChanges (events : List Event) : List (Change ServerBinding String) :=
  events.foldl Event.tellBindings []

/-- The changes of machines that events tell of since machines were last listed. -/
def machineChanges (events : List Event) : List (Change MetalMachine ObjectKey) :=
  events.foldl Event.tellMachines []

/-! ### Bindings and machines apart -/

theorem targets_foldl_applyBinding (bindings : List ServerBinding) (index : Index) :
    (bindings.foldl applyBinding index).targets = index.targets := by
  induction bindings generalizing index with
  | nil => rfl
  | cons binding rest ih => exact ih (index.applyBinding binding)

theorem holders_applyMachine (index : Index) (machine : MetalMachine) :
    (index.applyMachine machine).holders = index.holders := by
  unfold applyMachine
  split <;> rfl

theorem holders_foldl_applyMachine (machines : List MetalMachine) (index : Index) :
    (machines.foldl applyMachine index).holders = index.holders := by
  induction machines generalizing index with
  | nil => rfl
  | cons machine rest ih =>
      exact (ih (index.applyMachine machine)).trans (index.holders_applyMachine machine)

theorem targets_learn (event : Event) (of_bindings : event.isOfBindings = true) :
    (index.learn event).targets = index.targets := by
  cases event with
  | bindingSeen | bindingGone => rfl
  | bindingsListed bindings => exact targets_foldl_applyBinding bindings _
  | machineSeen | machineGone | machinesListed => exact nomatch of_bindings

theorem holders_learn (event : Event) (of_machines : event.isOfBindings = false) :
    (index.learn event).holders = index.holders := by
  cases event with
  | machineSeen machine => exact index.holders_applyMachine machine
  | machineGone => rfl
  | machinesListed machines => exact holders_foldl_applyMachine machines _
  | bindingSeen | bindingGone | bindingsListed => exact nomatch of_machines

/-! ### Changes of bindings and of machines -/

/-- An event makes the index note of bindings what it tells of them. -/
theorem holders_learn_eq {changes : List (Change ServerBinding String)}
    (noted : index.holders.forth = changes.foldl Table.holders.apply Dict.empty) (event : Event) :
    (index.learn event).holders.forth =
      (event.tellBindings changes).foldl Table.holders.apply Dict.empty := by
  cases event with
  | bindingSeen binding =>
      rw [Event.tellBindings, List.foldl_append, ← noted]
      exact holders_applyBinding index binding
  | bindingGone name =>
      rw [Event.tellBindings, List.foldl_append, ← noted]
      rfl
  | bindingsListed bindings =>
      rw [Event.tellBindings, List.foldl_map]
      exact holders_replaceBindings index bindings
  | machineSeen | machineGone | machinesListed =>
      exact (congrArg Links.forth (holders_learn _ rfl)).trans noted

/-- An event makes the index note of machines what it tells of them. -/
theorem targets_learn_eq {changes : List (Change MetalMachine ObjectKey)}
    (noted : index.targets.forth = changes.foldl Table.targets.apply Dict.empty) (event : Event) :
    (index.learn event).targets.forth =
      (event.tellMachines changes).foldl Table.targets.apply Dict.empty := by
  cases event with
  | machineSeen machine =>
      rw [Event.tellMachines, List.foldl_append, ← noted]
      exact targets_applyMachine index machine
  | machineGone key =>
      rw [Event.tellMachines, List.foldl_append, ← noted]
      rfl
  | machinesListed machines =>
      rw [Event.tellMachines, List.foldl_map]
      exact targets_replaceMachines index machines
  | bindingSeen | bindingGone | bindingsListed =>
      exact (congrArg Links.forth (targets_learn _ rfl)).trans noted

/-- After some events the index has noted of bindings and of machines what the events tell of them
since these were last listed. -/
theorem forth_foldl_learn (events : List Event) :
    (events.foldl learn {}).holders.forth =
        (bindingChanges events).foldl Table.holders.apply Dict.empty ∧
      (events.foldl learn {}).targets.forth =
        (machineChanges events).foldl Table.targets.apply Dict.empty := by
  unfold bindingChanges machineChanges
  induction events using List.reverseRecOn with
  | nil => exact ⟨rfl, rfl⟩
  | append_singleton earlier event ih =>
      simp only [List.foldl_append, List.foldl_cons, List.foldl_nil]
      exact ⟨holders_learn_eq ih.1 event, targets_learn_eq ih.2 event⟩

end Index

/-- An index that was empty at first answers, in ascending order, with just the bindings whose last
word since bindings were last listed is that the machine holds them, and with just the machines whose
last word since machines were last listed is that they name the server.  What is told of bindings
changes no answer about machines, and what is told of machines changes no answer about bindings. -/
theorem index_answers_latest :
    (∀ (events : List Index.Event) (machine : ObjectKey),
      ((events.foldl Index.learn {}).bindingsFor machine).Pairwise (· < ·) ∧
        ∀ name, name ∈ (events.foldl Index.learn {}).bindingsFor machine ↔
          ∃ binding, Table.holders.IsLatest (Index.bindingChanges events) binding ∧
            binding.anyName = name ∧ binding.holder = machine) ∧
    (∀ (events : List Index.Event) (server : String),
      ((events.foldl Index.learn {}).machinesFor server).Pairwise
          (fun earlier later => compare earlier later = .lt) ∧
        ∀ key, key ∈ (events.foldl Index.learn {}).machinesFor server ↔
          ∃ machine, Table.targets.IsLatest (Index.machineChanges events) machine ∧
            machine.key = key ∧ machine.namedServer? = some server) ∧
    (∀ (index : Index) (event : Index.Event), event.isOfBindings = true →
      (index.learn event).machinesFor = index.machinesFor) ∧
    ∀ (index : Index) (event : Index.Event), event.isOfBindings = false →
      (index.learn event).bindingsFor = index.bindingsFor := by
  refine ⟨fun events machine => ⟨Dict.pairwise_keys _, fun name => ?_⟩,
    fun events server => ⟨Dict.ascending_keys _, fun key => ?_⟩, ?_, ?_⟩
  · refine Links.mem_keysOf.trans ?_
    rw [(Index.forth_foldl_learn events).1, Table.get?_foldl_apply]
    simp [Table.holders]
  · refine Links.mem_keysOf.trans ?_
    rw [(Index.forth_foldl_learn events).2, Table.get?_foldl_apply]
    rfl
  · intro index event of_bindings
    funext server
    exact congrArg (Links.keysOf · server) (Index.targets_learn event of_bindings)
  · intro index event of_machines
    funext machine
    exact congrArg (Links.keysOf · machine) (Index.holders_learn event of_machines)

/-- What an index is told: of bindings before a listing, of one binding twice in the listing, and then
of one that changes its machine, of one that goes twice, and of a machine that lets go of its
server. -/
def Laboratory.recounted : List Index.Event := [
  .bindingSeen (bound "z" "m"),
  .bindingsListed [bound "c" "m", bound "b" "n", bound "b" "m", bound "a" "m"],
  .machineSeen naming, .bindingSeen (bound "a" "n"), .bindingGone "c", .bindingGone "c",
  .bindingSeen (bound "d" "m"), .machineSeen (machine "m" {}),
  .machineSeen (machine "n" { serverRef := some (.ofName "a") })]

/-- Of a binding that was listed twice the second entry counts, and a machine that names no server any
more is not found under the one it named. -/
theorem index_answers_latest_recounted :
    (Laboratory.recounted.foldl Index.learn {}).bindingsFor (Laboratory.key "m") = ["b", "d"] ∧
    (∃ binding, Table.holders.IsLatest (Index.bindingChanges Laboratory.recounted) binding ∧
      binding.anyName = "b" ∧ binding.holder = Laboratory.key "m") ∧
    (Laboratory.recounted.foldl Index.learn {}).machinesFor "a" = [Laboratory.key "n"] ∧
    (Index.Event.bindingGone "b").isOfBindings = true ∧
    ((Laboratory.recounted.foldl Index.learn {}).learn (.bindingGone "b")).machinesFor "a" =
      [Laboratory.key "n"] ∧
    (Index.Event.machineGone (Laboratory.key "n")).isOfBindings = false ∧
    ((Laboratory.recounted.foldl Index.learn {}).learn
      (.machineGone (Laboratory.key "n"))).bindingsFor (Laboratory.key "m") = ["b", "d"] := by
  obtain ⟨bindings, -, of_bindings, of_machines⟩ := index_answers_latest
  have held : (Laboratory.recounted.foldl Index.learn {}).bindingsFor (Laboratory.key "m") =
      ["b", "d"] := by decide +kernel
  have naming : (Laboratory.recounted.foldl Index.learn {}).machinesFor "a" =
      [Laboratory.key "n"] := by decide +kernel
  have latest := ((bindings Laboratory.recounted (Laboratory.key "m")).2 "b").1 (by simp [held])
  exact ⟨held, latest, naming, rfl, (congrFun (of_bindings _ _ rfl) "a").trans naming, rfl,
    (congrFun (of_machines _ _ rfl) (Laboratory.key "m")).trans held⟩

end BareMetal
