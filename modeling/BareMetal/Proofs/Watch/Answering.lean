import BareMetal.Claim
import BareMetal.Proofs.Fleet
import BareMetal.Proofs.Watch.Noting
import BareMetal.Store.Call

/-!
# What an index answers that follows a watcher

The index keeps two tables, the holders of bindings and the targets of machines, and each follows
its watcher as any table does.  So the index answers as a scan of the collection would whenever
every change is told, and as it did before while a listing is going on.
-/

namespace BareMetal

/-! ## The tables of the index -/

/-- Of a binding the machine is noted that holds it. -/
def Table.holders : Table ServerBinding String ObjectKey where
  key := ServerBinding.anyName
  entry? binding := some binding.holder

/-- Of a machine the server is noted that it names. -/
def Table.targets : Table MetalMachine ObjectKey String where
  key := MetalMachine.key
  entry? := MetalMachine.namedServer?

theorem Table.scan_holders : holders.scan = fun bindings machine =>
    ascending ((bindingsOf machine bindings).map ServerBinding.anyName) := by
  funext bindings machine
  simp [scan, holders, bindingsOf, ServerBinding.isHeldBy, ServerBinding.holder,
    Reference.pointsTo, beq_eq_decide]

theorem Table.scan_targets : targets.scan = fun machines server =>
    ascending ((machinesNaming server machines).map MetalMachine.key) := by
  funext machines server
  refine congrArg ascending (congrArg (List.map MetalMachine.key) (List.filter_congr ?_))
  intro machine _
  cases named : machine.spec.serverRef <;>
    simp [targets, MetalMachine.namedServer?, MetalMachine.namesServer, named, beq_eq_decide]

namespace Index

theorem holders_applyBinding (index : Index) (binding : ServerBinding) :
    (index.applyBinding binding).holders.forth =
      Table.holders.note index.holders.forth binding :=
  Links.forth_link ..

theorem targets_applyMachine (index : Index) (machine : MetalMachine) :
    (index.applyMachine machine).targets.forth =
      Table.targets.note index.targets.forth machine := by
  cases named : machine.spec.serverRef <;>
    simp [Index.applyMachine, Table.note, Table.targets, MetalMachine.namedServer?, named]

theorem holders_replaceBindings (index : Index) (bindings : List ServerBinding) :
    (index.replaceBindings bindings).holders.forth =
      bindings.foldl Table.holders.note Dict.empty :=
  (List.foldl_hom (fun index : Index => index.holders.forth) fun index binding =>
    (holders_applyBinding index binding).symm).symm

theorem targets_replaceMachines (index : Index) (machines : List MetalMachine) :
    (index.replaceMachines machines).targets.forth =
      machines.foldl Table.targets.note Dict.empty :=
  (List.foldl_hom (fun index : Index => index.targets.forth) fun index machine =>
    (targets_applyMachine index machine).symm).symm

end Index

/-- The keys under which a target is noted. -/
def Notes.keysFor {α κ τ : Type} [Ord κ] [DecidableEq τ] (notes : Notes α κ τ) (target : τ) :
    List κ :=
  (notes.entries.filter fun entry => entry.2 == target).keys

namespace Following

/-- The notes of an index about bindings. -/
def holders (following : Following ServerBinding) : Notes ServerBinding String ObjectKey :=
  ⟨following.staged, following.index.holders.forth⟩

/-- The notes of an index about machines. -/
def targets (following : Following MetalMachine) : Notes MetalMachine ObjectKey String :=
  ⟨following.staged, following.index.targets.forth⟩

/-- A binding that is told to be deleted is taken out by its name. -/
theorem holders_bindings (following : Following ServerBinding) (event : WatchEvent ServerBinding)
    (named : ∀ binding, event = .deleted binding → binding.metadata.name.isSome = true) :
    (following.bindings event).holders = Table.holders.follow following.holders event := by
  cases event with
  | listEnds => exact congrArg _ (following.index.holders_replaceBindings following.staged)
  | changed binding => exact congrArg _ (following.index.holders_applyBinding binding)
  | deleted binding =>
      obtain ⟨name, found⟩ := Option.isSome_iff_exists.1 (named binding rfl)
      simp [bindings, found, holders, Table.follow, Table.holders, Index.removeBinding,
        ServerBinding.anyName, Metadata.anyName]
  | _ => rfl

theorem targets_machines (following : Following MetalMachine) (event : WatchEvent MetalMachine) :
    (following.machines event).targets = Table.targets.follow following.targets event := by
  cases event with
  | listEnds => exact congrArg _ (following.index.targets_replaceMachines following.staged)
  | changed machine => exact congrArg _ (following.index.targets_applyMachine machine)
  | _ => rfl

theorem holders_foldl {events : List (WatchEvent ServerBinding)}
    (named : ∀ binding, .deleted binding ∈ events → binding.metadata.name.isSome = true)
    (following : Following ServerBinding) :
    (events.foldl bindings following).holders =
      events.foldl Table.holders.follow following.holders := by
  induction events generalizing following with
  | nil => rfl
  | cons event rest ih =>
      rw [List.foldl_cons, List.foldl_cons,
        ih fun binding member => named binding (List.mem_cons_of_mem _ member),
        following.holders_bindings event]
      rintro binding rfl
      exact named binding List.mem_cons_self

theorem targets_foldl (events : List (WatchEvent MetalMachine))
    (following : Following MetalMachine) :
    (events.foldl machines following).targets =
      events.foldl Table.targets.follow following.targets :=
  (List.foldl_hom targets fun now event => (targets_machines now event).symm).symm

/-- The index answers about bindings from its notes about them. -/
theorem bindingsFor_eq (following : Following ServerBinding) :
    following.index.bindingsFor = following.holders.keysFor :=
  funext fun machine => Links.keysOf_eq_filter following.index.holders machine

/-- The index answers about machines from its notes about them. -/
theorem machinesFor_eq (following : Following MetalMachine) :
    following.index.machinesFor = following.targets.keysFor :=
  funext fun server => Links.keysOf_eq_filter following.index.targets server

end Following

/-! ## Answers -/

/-- After some events the answers are those of a scan of the collection if every change is told, and
those from before the last listing began if it was not completed. -/
structure Scene.AnsweredBy {α κ τ : Type} [Resource α] {key : α → κ} (now : Scene key)
    (answer : List (WatchEvent α) → τ → List κ) (scan : List α → τ → List κ)
    (events : List (WatchEvent α)) : Prop where
  current : now.phase = .live → answer events = scan now.roster.objects
  unmoved : ∀ front back, events = front ++ .listBegins :: back → .listEnds ∉ back →
    answer events = answer front

/-- What is answered from a table that follows a watcher is answered so. -/
theorem Table.answeredBy {α κ τ : Type} [Resource α] [Ord κ] [Std.LawfulEqOrd κ] [Std.TransOrd κ]
    [DecidableEq κ] [DecidableEq τ] (table : Table α κ τ) (notes : Notes α κ τ)
    {start now : Scene table.key} {events : List (WatchEvent α)} (adrift : start.phase = .adrift)
    (told : start.Told events now) {answer : List (WatchEvent α) → τ → List κ}
    (answers : ∀ part, part ⊆ events → answer part = (part.foldl table.follow notes).keysFor) :
    now.AnsweredBy answer table.scan events where
  current live := by
    have noted : start.NotedIn notes := by
      constructor <;> simp [adrift]
    rw [answers events fun _ => id]
    funext target
    exact ((noted.told told).live live).keys_eq_scan now.roster.distinct target
  unmoved front back listing incomplete := by
    have within : front ⊆ events := by simp [listing]
    rw [answers events fun _ => id, answers front within]
    funext target
    simp only [Notes.keysFor, (told.entries_eq notes listing incomplete).2]

/-- An index that follows a watcher of bindings answers as a scan of the bindings would while every
change is told, and as it did before while a listing is going on; one that follows a watcher of
machines does the same. -/
theorem index_follows_watcher :
    (∀ (start now : Scene ServerBinding.anyName) (events : List (WatchEvent ServerBinding))
        (following : Following ServerBinding),
      start.phase = .adrift → start.Told events now → now.AnsweredBy
        (fun told => (told.foldl Following.bindings following).index.bindingsFor)
        (fun bindings machine =>
          ascending ((bindingsOf machine bindings).map ServerBinding.anyName)) events) ∧
    ∀ (start now : Scene MetalMachine.key) (events : List (WatchEvent MetalMachine))
        (following : Following MetalMachine),
      start.phase = .adrift → start.Told events now → now.AnsweredBy
        (fun told => (told.foldl Following.machines following).index.machinesFor)
        (fun machines server =>
          ascending ((machinesNaming server machines).map MetalMachine.key)) events := by
  constructor
  · intro start now events following adrift told
    rw [← Table.scan_holders]
    apply Table.holders.answeredBy following.holders adrift told
    intro part within
    have named : ∀ binding, .deleted binding ∈ part → binding.metadata.name.isSome = true :=
      fun binding member => told.named_of_deleted (within member)
    rw [Following.bindingsFor_eq, Following.holders_foldl named following]
  · intro start now events following adrift told
    rw [← Table.scan_targets]
    apply Table.targets.answeredBy following.targets adrift told
    intro part _
    rw [Following.machinesFor_eq, Following.targets_foldl part following]

namespace Laboratory

/-- A binding by which a machine holds a server. -/
def bound (server machine : String) : ServerBinding where
  metadata := { name := some server }
  spec := { metalMachineRef := { name := machine, space := some "lab" } }

/-- One binding, of which a first listing tells. -/
def firstBindings : Roster ServerBinding.anyName where
  objects := [bound "a" "m"]
  named := by simp [bound, Resource.metadata]
  distinct := by simp

/-- The bindings of which a second listing tells. -/
def secondBindings : Roster ServerBinding.anyName where
  objects := [bound "b" "m", bound "c" "n"]
  named := by simp [bound, Resource.metadata]
  distinct := by simp [bound, ServerBinding.anyName, Metadata.anyName]

/-- What is told of a binding in a listing that is cut off, of others in the next listing, and then of
a binding that changes its machine and of one that goes. -/
def retold : List (WatchEvent ServerBinding) := [
  .listBegins, .listed (bound "a" "m"), .listBegins, .failed, .listed (bound "c" "n"),
  .listed (bound "b" "m"), .listEnds, .changed (bound "c" "m"), .deleted (bound "b" "m")]

/-- The bindings after that. -/
def lastBindings : Roster ServerBinding.anyName :=
  (secondBindings.put (bound "c" "m") rfl).drop "b"

theorem retold_told :
    Scene.Told ⟨firstBindings, .adrift⟩ retold ⟨lastBindings, .live⟩ := by
  have cut_off : Scene.Told ⟨firstBindings, .adrift⟩ [.listBegins, .listed (bound "a" "m")]
      ⟨secondBindings, .adrift⟩ :=
    .next (.next (.next (.next .nothing .begins) (.lists (.head _) nofun)) .breaks) .drifts
  have apart : bound "b" "m" ∉ [bound "c" "n"] := by simp [bound]
  have listed := ((cut_off.next .begins).next .fails).next
    (.lists (.tail _ (.head _)) (List.not_mem_nil : bound "c" "n" ∉ []))
  have complete := (listed.next (.lists (.head _) apart)).next
    (.ends (by simp [secondBindings]))
  exact (complete.next (.changes rfl)).next (.deletes rfl)

/-- A machine that names a server. -/
def naming : MetalMachine := machine "m" { serverRef := some (.ofName "a") }

/-- The machine that names a server. -/
def firstMachines : Roster MetalMachine.key where
  objects := [naming]
  named := by simp [naming, machine, Resource.metadata]
  distinct := by simp

/-- What is told of a machine that is listed, and then again in a listing that is not complete. -/
def relisted : List (WatchEvent MetalMachine) :=
  [.listBegins, .listed naming, .listEnds, .listBegins]

theorem relisted_told :
    Scene.Told ⟨firstMachines, .adrift⟩ relisted ⟨firstMachines, .listing []⟩ :=
  .next (.next (.next (.next .nothing .begins) (.lists (.head _) nofun))
    (.ends fun _ member => member)) .begins

end Laboratory

/-- Nothing is left of a listing that was cut off, of a binding only its last machine counts, and what
is known of a machine stays known while it is listed anew. -/
theorem index_follows_watcher_retold :
    Scene.Told ⟨Laboratory.firstBindings, .adrift⟩ Laboratory.retold
      ⟨Laboratory.lastBindings, .live⟩ ∧
    (Laboratory.retold.foldl Following.bindings {}).index.bindingsFor (Laboratory.key "m") =
      ["c"] ∧
    Scene.Told ⟨Laboratory.firstMachines, .adrift⟩ Laboratory.relisted
      ⟨Laboratory.firstMachines, .listing []⟩ ∧
    (Laboratory.relisted.foldl Following.machines {}).index.machinesFor "a" =
      [Laboratory.key "m"] := by
  have followed := index_follows_watcher.1 _ _ _ {} rfl Laboratory.retold_told
  have waiting := index_follows_watcher.2 _ _ _ {} rfl Laboratory.relisted_told
  refine ⟨Laboratory.retold_told, (congrFun (followed.current rfl) (Laboratory.key "m")).trans ?_,
    Laboratory.relisted_told, ?_⟩
  · exact List.mergeSort_singleton "c"
  · exact (congrFun (waiting.unmoved [.listBegins, .listed Laboratory.naming, .listEnds] [] rfl
      List.not_mem_nil) "a").trans rfl

end BareMetal
