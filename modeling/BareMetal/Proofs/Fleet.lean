import BareMetal.Pass.Binding
import BareMetal.Pass.Machine
import BareMetal.Pass.Server
import BareMetal.Pass.ServerClass
import BareMetal.Proofs.Pass.Secures
import BareMetal.Proofs.Store.WellKept

/-!
# Fleets of passes

Any number of passes, of any number of allocators, run side by side over one store.  A step of the
fleet starts a pass, lets one pass have its next query answered, or is a change from outside.  A
pass that crashed is one that gets no more answers.
-/

namespace BareMetal

/-! ## What happened last -/

section

variable {α : Type} {Starts : List α → α → Prop} {Ends : α → Prop} {items : List α} {item : α}

/-- Something started, which what came before may tell, and since then it did not end. -/
def Since (Starts : List α → α → Prop) (Ends : α → Prop) (items : List α) : Prop :=
  ∃ front start back, items = front ++ start :: back ∧ Starts front start ∧
    ∀ later ∈ back, ¬Ends later

theorem not_since_nil : ¬Since Starts Ends [] := by
  rintro ⟨front, start, back, splits, _⟩
  simp at splits

theorem since_append_singleton : Since Starts Ends (items ++ [item]) ↔
    (Since Starts Ends items ∧ ¬Ends item) ∨ Starts items item := by
  constructor
  · rintro ⟨front, start, back, splits, starts, lasts⟩
    rcases List.eq_nil_or_concat back with rfl | ⟨shorter, final, rfl⟩
    · obtain ⟨rfl, same⟩ := List.append_inj' splits rfl
      obtain rfl := (List.cons.inj same).1
      exact .inr starts
    · have regrouped : items ++ [item] = (front ++ start :: shorter) ++ [final] := by
        simpa using splits
      obtain ⟨rfl, same⟩ := List.append_inj' regrouped rfl
      obtain rfl := (List.cons.inj same).1
      refine .inl ⟨⟨front, start, shorter, rfl, starts, fun later member => ?_⟩, ?_⟩
      · exact lasts later (by simp [member])
      · exact lasts item (by simp)
  · rintro (⟨⟨front, start, back, rfl, starts, lasts⟩, goes_on⟩ | starts)
    · refine ⟨front, start, back ++ [item], by simp, starts, fun later member => ?_⟩
      rcases List.mem_append.1 member with earlier | last
      · exact lasts later earlier
      · exact List.mem_singleton.1 last ▸ goes_on
    · exact ⟨items, item, [], rfl, starts, by simp⟩

end

/-! ## Runs -/

/-- The object that a pass looks at. -/
inductive Subject where
  /-- A metal machine. -/
  | machine (key : ObjectKey)
  /-- A binding. -/
  | binding (name : String)
  /-- A server. -/
  | server (name : String)
  /-- A server class. -/
  | serverClass (name : String)
  deriving DecidableEq

/-- The pass over an object. -/
def Subject.pass : Subject → Pass (Except PassError Outcome)
  | machine key => machinePass key
  | binding name => bindingPass name
  | server name => serverPass name
  | serverClass name => classPass name

/-- A pass that was started. -/
structure Running where
  /-- The object that it looks at. -/
  subject : Subject
  /-- What is left of it. -/
  rest : Pass (Except PassError Outcome)

/-- A pass that was just started. -/
def Subject.start (subject : Subject) : Running := ⟨subject, subject.pass⟩

/-- A store and the passes that run over it, in the order in which they were started. -/
structure Fleet where
  /-- The objects. -/
  store : Store
  /-- The passes, those that ended included. -/
  passes : List Running := []

/-- What can happen to a fleet. -/
inductive Act where
  /-- A pass is started. -/
  | start (subject : Subject)
  /-- A pass has a query answered. -/
  | answer (pass : Nat) (query : PassQuery) (answer : query.Answer)
  /-- The store is changed from outside. -/
  | outside

/-- One thing happens to a fleet, where `Outside` tells which changes may come from outside. -/
inductive Fleet.Step (Outside : Store → Store → Prop) : Fleet → Act → Fleet → Prop
  /-- A pass is started. -/
  | start (fleet : Fleet) (subject : Subject) :
      Step Outside fleet (.start subject) { fleet with passes := fleet.passes ++ [subject.start] }
  /-- The query that a pass is at is answered. -/
  | answer {fleet : Fleet} {pass : Nat} {subject : Subject} {query : PassQuery}
      {next : query.Answer → Pass (Except PassError Outcome)} {answer : query.Answer}
      {after : Store} (at_query : fleet.passes[pass]? = some ⟨subject, .ask query next⟩)
      (answered : query.Answered fleet.store answer after) :
      Step Outside fleet (.answer pass query answer)
        ⟨after, fleet.passes.set pass ⟨subject, next answer⟩⟩
  /-- The store is changed from outside. -/
  | outside (fleet : Fleet) {after : Store} (change : Outside fleet.store after) :
      Step Outside fleet .outside { fleet with store := after }

/-- Things happen to a fleet one after the other. -/
inductive Fleet.Run (Outside : Store → Store → Prop) (first : Fleet) : List Act → Fleet → Prop
  /-- Nothing happened yet. -/
  | refl : Run Outside first [] first
  /-- One more thing happens. -/
  | step {acts : List Act} {before after : Fleet} {act : Act}
      (run : Run Outside first acts before) (step : Fleet.Step Outside before act after) :
      Run Outside first (acts ++ [act]) after

namespace Fleet

variable {Outside : Store → Store → Prop} {first second third : Fleet}

theorem Run.append {front back : List Act} (before : Run Outside first front second)
    (after : Run Outside second back third) : Run Outside first (front ++ back) third := by
  induction after with
  | refl => rwa [List.append_nil]
  | step _ step ih =>
      rw [← List.append_assoc]
      exact .step ih step

theorem Step.mono {Wider : Store → Store → Prop} {act : Act} (step : first.Step Outside act second)
    (wider : ∀ before after, Outside before after → Wider before after) :
    first.Step Wider act second := by
  cases step with
  | start subject => exact .start _ subject
  | answer at_query answered => exact .answer at_query answered
  | outside change => exact .outside _ (wider _ _ change)

theorem Run.mono {Wider : Store → Store → Prop} {acts : List Act}
    (run : Run Outside first acts second)
    (wider : ∀ before after, Outside before after → Wider before after) :
    Run Wider first acts second := by
  induction run with
  | refl => exact .refl
  | step _ step ih => exact ih.step (step.mono wider)

/-- A run can be taken apart at each of its acts. -/
theorem Run.split {acts front back : List Act} {act : Act} (run : Run Outside first acts second)
    (splits : acts = front ++ act :: back) : ∃ before after, Run Outside first front before ∧
      Fleet.Step Outside before act after ∧ Run Outside after back second := by
  induction run generalizing back with
  | refl => simp at splits
  | @step acts before after last run step ih =>
      rcases List.eq_nil_or_concat back with rfl | ⟨shorter, final, rfl⟩
      · obtain ⟨rfl, same⟩ := List.append_inj' splits rfl
        obtain rfl := (List.cons.inj same).1
        exact ⟨before, after, run, step, .refl⟩
      · have regrouped : acts ++ [last] = (front ++ act :: shorter) ++ [final] := by
          simpa using splits
        obtain ⟨same_front, same_last⟩ := List.append_inj' regrouped rfl
        obtain rfl := (List.cons.inj same_last).1
        obtain ⟨reached, left, reaches, step_there, rest⟩ := ih same_front
        rw [List.concat_eq_append]
        exact ⟨reached, left, reaches, step_there, rest.step step⟩

/-- The objects that the passes look at, in the order in which the passes were started. -/
def subjects (fleet : Fleet) : List Subject := fleet.passes.map Running.subject

theorem subjects_at {fleet : Fleet} {pass : Nat} {running : Running}
    (found : fleet.passes[pass]? = some running) :
    fleet.subjects[pass]? = some running.subject := by
  rw [subjects, List.getElem?_map, found, Option.map_some]

/-- A pass goes on looking at its object. -/
theorem map_subject_set {fleet : Fleet} {pass : Nat} {subject : Subject}
    {rest : Pass (Except PassError Outcome)} (found : fleet.passes[pass]? = some ⟨subject, rest⟩)
    (later : Pass (Except PassError Outcome)) :
    (fleet.passes.set pass ⟨subject, later⟩).map Running.subject = fleet.subjects := by
  obtain ⟨_, subject_eq⟩ := List.getElem?_eq_some_iff.1 (subjects_at found)
  rw [List.map_set, ← subjects, ← subject_eq, List.set_getElem_self]

/-- Passes that were started are not forgotten. -/
theorem Step.subjects_grow {before after : Fleet} {act : Act}
    (step : before.Step Outside act after) : before.subjects <+: after.subjects := by
  cases step with
  | start subject => exact ⟨[subject], by simp [subjects, Subject.start]⟩
  | @answer _ _ _ next answer _ at_query _ =>
      exact ⟨[], (List.append_nil _).trans (map_subject_set at_query (next answer)).symm⟩
  | outside => exact List.prefix_rfl

/-! ## Passes on their own terms -/

/-- Every pass secures its goal on its terms, from the store as it is. -/
def Secured (terms : Subject → Terms Store)
    (goal : Subject → Except PassError Outcome → Store → Prop) (fleet : Fleet) : Prop :=
  ∀ (pass : Nat) (running : Running), fleet.passes[pass]? = some running →
    running.rest.Secures (terms running.subject) (goal running.subject) fleet.store

variable {terms : Subject → Terms Store}
  {goal : Subject → Except PassError Outcome → Store → Prop} {fleet : Fleet}

/-- A pass that secures its goal from the start may be started at any time. -/
theorem Secured.start (secured : fleet.Secured terms goal) {subject : Subject}
    (secures : subject.pass.Secures (terms subject) (goal subject) fleet.store) :
    Secured terms goal { fleet with passes := fleet.passes ++ [subject.start] } := by
  intro pass running found
  rw [List.getElem?_append] at found
  split at found
  · exact secured pass running found
  · cases List.mem_singleton.1 (List.mem_of_getElem? found)
    exact secures

/-- A change that all passes rely on leaves them secure. -/
theorem Secured.outside (secured : fleet.Secured terms goal) {after : Store}
    (relied : ∀ (pass : Nat) (running : Running), fleet.passes[pass]? = some running →
      (terms running.subject).rely fleet.store after) :
    Secured terms goal { fleet with store := after } :=
  fun pass running found => (secured pass running found).of_rely (relied pass running found)

/-- An answer to a pass that secures its goal keeps the terms of the pass, and all passes stay
secure if the others rely on no more than that. -/
theorem Secured.answer (secured : fleet.Secured terms goal) {pass : Nat} {subject : Subject}
    {query : PassQuery} {next : query.Answer → Pass (Except PassError Outcome)}
    {answer : query.Answer} {after : Store}
    (at_query : fleet.passes[pass]? = some ⟨subject, .ask query next⟩)
    (answered : query.Answered fleet.store answer after)
    (sound : (terms subject).invariant fleet.store)
    (relied : ∀ (other : Nat) (running : Running), other ≠ pass →
      fleet.passes[other]? = some running → (terms subject).keeps fleet.store after →
        (terms running.subject).rely fleet.store after) :
    (terms subject).invariant after ∧ (terms subject).keeps fleet.store after ∧
      Secured terms goal ⟨after, fleet.passes.set pass ⟨subject, next answer⟩⟩ := by
  obtain ⟨sound_after, keeps, secures⟩ := secured pass _ at_query fleet.store sound
    ((terms subject).rely_refl _) answer after answered
  refine ⟨sound_after, keeps, fun other running found => ?_⟩
  by_cases same : other = pass
  · subst same
    have within : other < fleet.passes.length := (List.getElem?_eq_some_iff.1 at_query).1
    rw [List.getElem?_set_self within] at found
    cases found
    exact secures
  · rw [List.getElem?_set_ne (Ne.symm same)] at found
    exact (secured other running found).of_rely (relied other running same found keeps)

/-! ## Playing a schedule -/

/-- What a clock that stands shows. -/
def epoch : Timestamp := ⟨⟨1970, 1, 1, by decide⟩, 0, 0, 0, 0, by decide⟩

/-- An answer that the store allows; the index is empty, the clock stands, and the workload
cluster takes every stamp. -/
def respond (store : Store) : (query : PassQuery) → query.Answer × Store
  | .store call => store.perform call
  | .stampNode _ _ _ => (.ok (), store)
  | .bindingsFor _ => ([], store)
  | .machinesFor _ => ([], store)
  | .learn _ => ((), store)
  | .count _ => ((), store)
  | .now => (epoch, store)

/-- Gives a pass its next answer, if it has not ended. -/
def advance (fleet : Fleet) (pass : Nat) : Fleet :=
  match fleet.passes[pass]? with
  | some ⟨subject, .ask query next⟩ =>
      let (answer, after) := respond fleet.store query
      ⟨after, fleet.passes.set pass ⟨subject, next answer⟩⟩
  | _ => fleet

/-- Gives the passes of a schedule one answer after the other. -/
def play (fleet : Fleet) (schedule : List Nat) : Fleet := schedule.foldl advance fleet

theorem respond_answered (store : Store) (query : PassQuery) :
    query.Answered store (respond store query).1 (respond store query).2 := by
  cases query <;> rfl

theorem advance_run (Outside : Store → Store → Prop) (fleet : Fleet) (pass : Nat) :
    ∃ acts, Run Outside fleet acts (fleet.advance pass) := by
  unfold advance
  split
  · rename_i at_query
    exact ⟨_, .step .refl (.answer at_query (respond_answered fleet.store _))⟩
  · exact ⟨[], .refl⟩

/-- A schedule played is a run. -/
theorem play_run (Outside : Store → Store → Prop) (fleet : Fleet) (schedule : List Nat) :
    ∃ acts, Run Outside fleet acts (fleet.play schedule) := by
  induction schedule generalizing fleet with
  | nil => exact ⟨[], .refl⟩
  | cons pass rest ih =>
      obtain ⟨front, advanced⟩ := fleet.advance_run Outside pass
      obtain ⟨back, played⟩ := ih (fleet.advance pass)
      exact ⟨front ++ back, advanced.append played⟩

theorem advance_subjects (fleet : Fleet) (pass : Nat) :
    (fleet.advance pass).subjects = fleet.subjects := by
  unfold advance
  split
  · rename_i at_query
    exact map_subject_set at_query _
  · rfl

theorem play_subjects (fleet : Fleet) (schedule : List Nat) :
    (fleet.play schedule).subjects = fleet.subjects := by
  induction schedule generalizing fleet with
  | nil => rfl
  | cons pass rest ih => exact (ih (fleet.advance pass)).trans (fleet.advance_subjects pass)

/-- Starts the passes over several objects. -/
def launch (fleet : Fleet) (subjects : List Subject) : Fleet :=
  { fleet with passes := fleet.passes ++ subjects.map Subject.start }

/-- Passes may be started at any time. -/
theorem launch_run (Outside : Store → Store → Prop) (fleet : Fleet) (subjects : List Subject) :
    ∃ acts, Run Outside fleet acts (fleet.launch subjects) := by
  induction subjects generalizing fleet with
  | nil => exact ⟨[], by rw [launch, List.map_nil, List.append_nil]; exact .refl⟩
  | cons subject rest ih =>
      obtain ⟨acts, launched⟩ := ih { fleet with passes := fleet.passes ++ [subject.start] }
      have all : Fleet.launch { fleet with passes := fleet.passes ++ [subject.start] } rest =
          fleet.launch (subject :: rest) := by
        simp only [launch, List.map_cons, List.append_assoc, List.singleton_append]
      rw [all] at launched
      exact ⟨_, (Run.step .refl (.start fleet subject)).append launched⟩

/-! ## Running to the end -/

/-- Any pass can be given answers until it ends. -/
theorem finish_run (Outside : Store → Store → Prop) (fleet : Fleet) {pass : Nat}
    {subject : Subject} {rest : Pass (Except PassError Outcome)}
    (found : fleet.passes[pass]? = some ⟨subject, rest⟩) :
    ∃ acts last result, Run Outside fleet acts last ∧
      last.passes = fleet.passes.set pass ⟨subject, .done result⟩ := by
  have within : pass < fleet.passes.length := (List.getElem?_eq_some_iff.1 found).1
  induction rest generalizing fleet with
  | done result =>
      obtain ⟨_, found⟩ := List.getElem?_eq_some_iff.1 found
      exact ⟨[], fleet, result, .refl, by rw [← found, List.set_getElem_self]⟩
  | ask query next ih =>
      obtain ⟨acts, last, result, run, ended⟩ :=
        ih (respond fleet.store query).1 ⟨(respond fleet.store query).2, fleet.passes.set pass
          ⟨subject, next (respond fleet.store query).1⟩⟩ (List.getElem?_set_self within)
          (by simpa using within)
      refine ⟨_, last, result, Run.append (.step .refl (.answer found
        (respond_answered fleet.store query))) run, ?_⟩
      rw [ended, List.set_set]

/-- Any fleet can be run until all its passes have ended. -/
theorem complete_run (Outside : Store → Store → Prop) (fleet : Fleet) :
    ∃ acts last, Run Outside fleet acts last ∧ last.subjects = fleet.subjects ∧
      ∀ running ∈ last.passes, ∃ result, running.rest = Program.done result := by
  -- By induction on how many passes at the front have ended.
  have front_ends : ∀ count, ∃ acts last, Run Outside fleet acts last ∧
      last.subjects = fleet.subjects ∧ ∀ (pass : Nat) (running : Running),
        last.passes[pass]? = some running → pass < count →
          ∃ result, running.rest = .done result := by
    intro count
    induction count with
    | zero => exact ⟨[], fleet, .refl, rfl, fun _ _ _ before => absurd before (Nat.not_lt_zero _)⟩
    | succ count ih =>
        obtain ⟨acts, last, run, same, ended⟩ := ih
        cases found : last.passes[count]? with
        | none =>
            refine ⟨acts, last, run, same, fun pass running at_pass _ => ?_⟩
            refine ended pass running at_pass ?_
            have beyond := List.getElem?_eq_none_iff.1 found
            have within := (List.getElem?_eq_some_iff.1 at_pass).1
            omega
        | some running =>
            obtain ⟨subject, rest⟩ := running
            obtain ⟨more, later, result, further, passes⟩ := finish_run Outside last found
            refine ⟨acts ++ more, later, run.append further, ?_, ?_⟩
            · rw [subjects, passes, map_subject_set found, same]
            · intro pass running at_pass before
              rw [passes] at at_pass
              by_cases same_pass : pass = count
              · subst same_pass
                have within := (List.getElem?_eq_some_iff.1 found).1
                rw [List.getElem?_set_self within] at at_pass
                cases at_pass
                exact ⟨result, rfl⟩
              · rw [List.getElem?_set_ne (Ne.symm same_pass)] at at_pass
                exact ended pass running at_pass (by omega)
  obtain ⟨acts, last, run, same, ended⟩ := front_ends fleet.subjects.length
  refine ⟨acts, last, run, same, fun running member => ?_⟩
  obtain ⟨pass, found⟩ := List.getElem?_of_mem member
  refine ended pass running found ?_
  have within := (List.getElem?_eq_some_iff.1 found).1
  have same_length := congrArg List.length same
  simp only [subjects, List.length_map] at same_length ⊢
  omega

end Fleet

/-! ## A laboratory -/

namespace Laboratory

/-- The key of an object of the laboratory. -/
def key (name : String) : ObjectKey := ⟨"lab", name⟩

/-- A server that may be claimed. -/
def server (name : String) : Server where
  metadata := { name := some name }
  spec := { accepted := true }
  status := some { ready := true, isClean := true }

/-- A class with available servers. -/
def serverClass (servers : List String) : ServerClass where
  metadata := { name := some "pool" }
  spec := {}
  status := some { serversAvailable := servers }

/-- The owner of all metal machines, with its bootstrap data. -/
def owner : Machine where
  metadata := { name := some "owner", space := some "lab" }
  spec := { clusterName := "cluster", bootstrap := { dataSecretName := some "secret" } }

/-- A cluster whose infrastructure is ready. -/
def cluster : Cluster where
  metadata := { name := some "cluster", space := some "lab" }
  spec := {}
  status := some { infrastructureReady := true }

/-- A metal machine that passes all gates. -/
def machine (name : String) (spec : MetalMachineSpec) : MetalMachine where
  metadata := {
    name := some name
    space := some "lab"
    ownerReferences := some [{ apiVersion := "cluster.x-k8s.io/v1beta1", kind := "Machine",
                               name := "owner" }] }
  spec := spec

/-- A store with owner, cluster, and a class that has the given servers. -/
def store (servers : List String) : Store :=
  servers.foldl (fun store name => store.addServer (server name))
    (((({} : Store).addMachine owner).addCluster cluster).addServerClass (serverClass servers))

theorem store_arises (servers : List String) : (store servers).Arises := by
  have adds : ∀ (names : List String) (start : Store), start.Arises →
      (names.foldl (fun store name => store.addServer (server name)) start).Arises := by
    intro names
    induction names with
    | nil => exact fun _ arises => arises
    | cons name rest ih => exact fun start arises => ih _ (arises.addServer (server name))
  exact adds servers _ (((Store.Arises.empty.addMachine owner).addCluster cluster).addServerClass _)

/-- The surroundings of an allocator that remembers something. -/
def surroundings (store : Store) (index : Index) : Surroundings where
  store := store
  nodes := Dict.empty
  clock := { shows := fun _ => Fleet.epoch }
  memory := { index }

end Laboratory

end BareMetal
