import BareMetal.Proofs.Claim.Racing
import BareMetal.Proofs.Fleet

/-!
# How a race for the servers of a class ends

Several machines that name a class get one pass each, and the passes run side by side with nothing
else happening.  When all have ended, the first of the eligible servers are bound, as many as there
are machines or servers, and each goes to a machine of its own.
-/

namespace BareMetal

open Store

/-- A store in which several machines are about to race for the servers of a class. -/
structure Race (start : Store) (className : String) (serverClass : ServerClass)
    (keys : List ObjectKey) : Prop where
  /-- The store came about by its operations. -/
  arises : start.Arises
  /-- There is no binding. -/
  unclaimed : ∀ name, start.serverBindings.get? name = none
  /-- Creating bindings is not refused. -/
  creates : start.createFailure = none
  /-- The class is there. -/
  found : start.serverClasses.get? className = some serverClass
  /-- Its selector is absent or well formed. -/
  wellFormed : serverClass.spec.IsWellFormed
  /-- Its servers have names. -/
  server_named : ∀ name ∈ serverClass.availableServers, ∀ server,
    start.servers.get? name = some server → server.metadata.name.isSome = true
  /-- No machine enters twice. -/
  distinct : keys.Nodup
  /-- Each machine may enter. -/
  entrant : ∀ key ∈ keys, ∃ machine,
    start.metalMachines.get? key = some machine ∧ Entrant start className machine

/-- Nothing comes from outside. -/
def Undisturbed (_ _ : Store) : Prop := False

/-- The terms of the passes in a race, which are passes over machines. -/
def raceTerms (start : Store) (keys : List ObjectKey) (eligible : List String) :
    Subject → Terms Store
  | .machine key => racing start keys eligible key
  | .binding _ | .server _ | .serverClass _ => racing start keys eligible ⟨"", ""⟩

/-- How the passes in a race end. -/
def raceGoal (eligible : List String) : Subject → Except PassError Outcome → Store → Prop
  | .machine key, result, store => Verdict key eligible result (store.reference? key) store
  | .binding _, _, _ | .server _, _, _ | .serverClass _, _, _ => True

/-- A fleet in the course of a race. -/
structure Fleet.Races (start : Store) (keys : List ObjectKey) (eligible : List String)
    (fleet : Fleet) : Prop where
  /-- The store is as it may be in the race. -/
  sound : Racing start keys eligible fleet.store
  /-- Every pass is on its terms. -/
  secured : fleet.Secured (raceTerms start keys eligible) (raceGoal eligible)
  /-- A machine whose pass was not started is as it was and holds nothing. -/
  waiting : ∀ key ∈ keys, .machine key ∉ fleet.subjects →
    fleet.store.metalMachines.get? key = start.metalMachines.get? key ∧
      fleet.store.HoldsNothing key

section

variable {start : Store} {className : String} {serverClass : ServerClass}
  {keys : List ObjectKey} {first last : Fleet} {acts : List Act}

theorem Race.begins (race : Race first.store className serverClass keys)
    (no_pass : first.passes = []) :
    first.Races first.store keys (first.store.eligible serverClass) where
  sound := {
    toWellKept := race.arises.wellKept
    servers := rfl
    serverClasses := rfl
    machines := rfl
    clusters := rfl
    creates := race.creates
    unready := fun name _ found => nomatch (race.unclaimed name).symm.trans found
    held := fun name _ found => nomatch (race.unclaimed name).symm.trans found
    front := fun name bound => nomatch (race.unclaimed name).symm.trans bound.choose_spec }
  secured pass running found := by
    rw [no_pass] at found
    exact nomatch found
  waiting _ _ _ := ⟨rfl, fun name _ found => nomatch (race.unclaimed name).symm.trans found⟩

/-- A pass that is started or gets an answer keeps the race going. -/
theorem Fleet.Races.step {before after : Fleet} {act : Act}
    (races : before.Races start keys (start.eligible serverClass))
    (race : Race start className serverClass keys) (step : before.Step Undisturbed act after)
    (within : after.subjects <+: keys.map Subject.machine) :
    after.Races start keys (start.eligible serverClass) := by
  have machine_of_mem : ∀ subject ∈ after.subjects, ∃ key ∈ keys, subject = .machine key := by
    intro subject member
    obtain ⟨key, among, rfl⟩ := List.mem_map.1 (within.subset member)
    exact ⟨key, among, rfl⟩
  have distinct : after.subjects.Nodup :=
    within.sublist.nodup (List.pairwise_map.2 (race.distinct.imp fun differ same =>
      differ (Subject.machine.inj same)))
  have subject_mem : ∀ {pass : Nat} {running : Running},
      before.passes[pass]? = some running → running.subject ∈ before.subjects :=
    fun found => List.mem_of_getElem? (Fleet.subjects_at found)
  have grows := step.subjects_grow
  cases step with
  | outside change => exact change.elim
  | start subject =>
      have started : Fleet.subjects { before with passes := before.passes ++ [subject.start] } =
          before.subjects ++ [subject] := by simp [Fleet.subjects, Subject.start]
      rw [started] at distinct machine_of_mem
      obtain ⟨key, among, rfl⟩ := machine_of_mem subject (by simp)
      have unstarted : .machine key ∉ before.subjects := fun member =>
        (List.nodup_append.1 distinct).2.2 _ member _ List.mem_cons_self rfl
      obtain ⟨own, free⟩ := races.waiting key among unstarted
      obtain ⟨machine, machine_found, entrant⟩ := race.entrant key among
      obtain rfl : machine.key = key := race.arises.wellKept.machine_key key machine machine_found
      refine ⟨races.sound, races.secured.start ?_, fun other other_among other_unstarted => ?_⟩
      · exact machinePass_racing race.found race.wellFormed (race.arises.offers race.server_named)
          among entrant ⟨own.trans machine_found, free⟩
      · exact races.waiting other other_among fun member =>
          other_unstarted (grows.subset member)
  | @answer pass subject query next answer store at_query answered =>
      obtain ⟨key, among, rfl⟩ := machine_of_mem _ (grows.subset (subject_mem at_query))
      obtain ⟨sound, takes, secured⟩ := races.secured.answer at_query answered races.sound
        fun other running differs found takes => by
          obtain ⟨other_key, _, same⟩ := machine_of_mem _ (grows.subset (subject_mem found))
          obtain ⟨subject, rest⟩ := running
          obtain rfl : subject = .machine other_key := same
          refine Takes.yields takes ?_
          rintro rfl
          have nodup : before.subjects.Nodup := grows.sublist.nodup distinct
          have in_range := (List.getElem?_eq_some_iff.1 (Fleet.subjects_at found)).1
          exact differs ((List.getElem?_inj in_range nodup).1
            ((Fleet.subjects_at found).trans (Fleet.subjects_at at_query).symm))
      refine ⟨sound, secured, fun other other_among still_unstarted => ?_⟩
      have unstarted : .machine other ∉ before.subjects := fun member =>
        still_unstarted (grows.subset member)
      have differs : other ≠ key := by
        rintro rfl
        exact unstarted (subject_mem at_query)
      obtain ⟨own, free⟩ := races.waiting other other_among unstarted
      have yields := Takes.yields takes differs
      exact ⟨yields.own.trans own, free.of_yields yields⟩

theorem Race.run (race : Race first.store className serverClass keys)
    (no_pass : first.passes = []) (run : first.Run Undisturbed acts last)
    (within : last.subjects <+: keys.map Subject.machine) :
    last.Races first.store keys (first.store.eligible serverClass) := by
  induction run with
  | refl => exact race.begins no_pass
  | step _ step ih => exact (ih (step.subjects_grow.trans within)).step race step within

/-- When all passes have ended there is a verdict on every machine. -/
theorem Fleet.Races.verdict (races : last.Races start keys (start.eligible serverClass))
    (all : last.subjects = keys.map Subject.machine)
    (ended : ∀ running ∈ last.passes, ∃ result, running.rest = .done result)
    {key : ObjectKey} (entered : key ∈ keys) :
    ∃ result, (⟨.machine key, .done result⟩ : Running) ∈ last.passes ∧
      Verdict key (start.eligible serverClass) result (last.store.reference? key) last.store := by
  have started : Subject.machine key ∈ last.subjects := all ▸ List.mem_map_of_mem entered
  obtain ⟨⟨subject, rest⟩, member, rfl⟩ := List.mem_map.1 started
  obtain ⟨result, rfl⟩ := ended _ member
  obtain ⟨pass, found⟩ := List.getElem?_of_mem member
  exact ⟨result, member, races.secured pass _ found last.store races.sound
    ((raceTerms start keys (start.eligible serverClass) _).rely_refl _)⟩

/-- The names that the machines of a race were given. -/
def Store.namesGiven (store : Store) (keys : List ObjectKey) : List String :=
  keys.filterMap fun key => (store.reference? key).map Reference.name

/-- If there is a verdict on every machine, the machines were given the bound names, each of them
once. -/
theorem namesGiven_perm {store : Store} {eligible : List String}
    (racing : Racing start keys eligible store) (distinct : keys.Nodup)
    (verdict : ∀ key ∈ keys, ∃ result,
      Verdict key eligible result (store.reference? key) store) :
    (store.namesGiven keys).Perm store.serverBindings.keys := by
  have given : ∀ key ∈ keys, ∀ name, (store.reference? key).map Reference.name = some name ↔
      store.Holds key name := by
    intro key entered name
    obtain ⟨result, ends⟩ := verdict key entered
    generalize store.reference? key = reference at ends
    cases ends with
    | @won _ server holds =>
        constructor
        · rintro ⟨⟩
          exact holds.1
        · intro other
          rw [holds.2 name other]
          rfl
    | lost free _ =>
        constructor
        · exact fun none_given => nomatch none_given
        · exact fun holds => absurd holds (holdsNothing_iff.1 free name)
  have given_once : (store.namesGiven keys).Nodup := by
    refine List.pairwise_filterMap.2 (distinct.imp_of_mem ?_)
    rintro key other entered other_entered differ name names _ other_names rfl
    exact differ (((given key entered name).1 names).unique
      ((given other other_entered name).1 other_names))
  have bound_once : store.serverBindings.keys.Nodup := by
    refine (Dict.pairwise_keys store.serverBindings).imp fun {name other} before => ?_
    rintro rfl
    exact Std.lt_irrefl before
  refine (List.perm_ext_iff_of_nodup given_once bound_once).2 fun name => ?_
  rw [Store.namesGiven, List.mem_filterMap, Dict.mem_keys]
  constructor
  · rintro ⟨key, entered, names⟩
    obtain ⟨binding, found, _⟩ := (given key entered name).1 names
    exact ⟨binding, found⟩
  · rintro ⟨binding, found⟩
    obtain ⟨key, entered, held⟩ := racing.held name binding found
    exact ⟨key, entered, (given key entered name).2 ⟨binding, found, held⟩⟩

/-- If there is a verdict on every machine, the bound names are the first eligible ones, as many as
there are machines or eligible names. -/
theorem boundNames_eq_take {store : Store} {eligible : List String}
    (ascending : eligible.Pairwise (· < ·)) (racing : Racing start keys eligible store)
    (distinct : keys.Nodup) (verdict : ∀ key ∈ keys, ∃ result,
      Verdict key eligible result (store.reference? key) store) :
    store.serverBindings.keys = eligible.take (min keys.length eligible.length) := by
  have bound_iff : ∀ name, name ∈ store.serverBindings.keys ↔ store.Bound name := fun name =>
    Dict.mem_keys
  have bound_front : store.serverBindings.keys =
      eligible.take store.serverBindings.keys.length := by
    refine eq_take_of_closed ascending (Dict.pairwise_keys _) ?_ ?_
    · exact fun name bound => (racing.front name ((bound_iff name).1 bound)).1
    · exact fun name bound earlier member before => (bound_iff earlier).2 <|
        (racing.front name ((bound_iff name).1 bound)).2 earlier member before
  have at_most : store.serverBindings.keys.length ≤ eligible.length := by
    have same_length := congrArg List.length bound_front
    rw [List.length_take] at same_length
    omega
  have given_length := (namesGiven_perm racing distinct verdict).length_eq
  have given_at_most : (store.namesGiven keys).length ≤ keys.length :=
    List.length_filterMap_le _ _
  have count : store.serverBindings.keys.length = min keys.length eligible.length := by
    by_cases lost : ∃ key ∈ keys, store.reference? key = none
    · -- A machine that was given nothing found all eligible names bound.
      obtain ⟨key, entered, unnamed⟩ := lost
      obtain ⟨result, ends⟩ := verdict key entered
      rw [unnamed] at ends
      have all_bound : ∀ name ∈ eligible, store.Bound name := by
        cases ends with
        | lost _ bound => exact bound
      have all_front : eligible = store.serverBindings.keys.take eligible.length := by
        refine eq_take_of_closed (Dict.pairwise_keys _) ascending ?_ ?_
        · exact fun name member => (bound_iff name).2 (all_bound name member)
        · exact fun _ _ earlier bound _ => (racing.front earlier ((bound_iff earlier).1 bound)).1
      have same_length := congrArg List.length all_front
      rw [List.length_take] at same_length
      omega
    · -- Every machine was given a name.
      have all_given : (store.namesGiven keys).length = keys.length := by
        refine List.filterMap_length_eq_length.2 fun key entered => ?_
        cases names : store.reference? key with
        | none => exact absurd ⟨key, entered, names⟩ lost
        | some reference => rfl
      omega
  rw [bound_front, count]

/-- However the passes of a race interleave, in the end the first eligible servers are bound, as
many as there are machines or eligible servers; as many machines were given a server, each one of
its own; and every pass reports what came of its machine. -/
theorem race_ends (race : Race first.store className serverClass keys)
    (no_pass : first.passes = []) (run : first.Run Undisturbed acts last)
    (all : last.subjects = keys.map Subject.machine)
    (ended : ∀ running ∈ last.passes, ∃ result, running.rest = .done result) :
    last.store.serverBindings.keys = (first.store.eligible serverClass).take
        (min keys.length (first.store.eligible serverClass).length) ∧
    (keys.filter fun key => (last.store.reference? key).isSome).length =
        min keys.length (first.store.eligible serverClass).length ∧
    (last.store.namesGiven keys).Perm last.store.serverBindings.keys ∧
    ∀ key ∈ keys, ∃ result, (⟨.machine key, .done result⟩ : Running) ∈ last.passes ∧
      ((∃ server, result = .ok (.requeue .bindingNotReady) ∧
          last.store.reference? key = some (.ofName server) ∧ last.store.HoldsJust key server) ∨
        (result = .ok (.requeue .noEligibleServers) ∧ last.store.reference? key = none ∧
          last.store.HoldsNothing key)) := by
  have races := race.run no_pass run (all ▸ List.prefix_rfl)
  have verdict : ∀ key ∈ keys, ∃ result, Verdict key (first.store.eligible serverClass) result
      (last.store.reference? key) last.store := fun key entered => by
    obtain ⟨result, _, ends⟩ := races.verdict all ended entered
    exact ⟨result, ends⟩
  have ascending : (first.store.eligible serverClass).Pairwise (· < ·) := pairwise_sortedNames _
  have bound := boundNames_eq_take ascending races.sound race.distinct verdict
  have given := namesGiven_perm races.sound race.distinct verdict
  refine ⟨bound, ?_, given, fun key entered => ?_⟩
  · have same_length := given.length_eq
    rw [bound, List.length_take, Nat.min_eq_left (Nat.min_le_right _ _), Store.namesGiven,
      List.length_filterMap_eq_countP, List.countP_eq_length_filter] at same_length
    simpa using same_length
  · obtain ⟨result, member, ends⟩ := races.verdict all ended entered
    refine ⟨result, member, ?_⟩
    generalize last.store.reference? key = reference at ends
    cases ends with
    | won holds => exact .inl ⟨_, rfl, rfl, holds⟩
    | lost free _ => exact .inr ⟨rfl, rfl, free⟩

end

/-- A pool of two servers, one of them listed twice, and a third one that is gone; three machines
that want a server of it. -/
def crowded : Store :=
  ((((Laboratory.store ["b", "c", "a", "b"]).removeServer "c").addMetalMachine
    (Laboratory.machine "x" { serverClassRef := some (.ofName "pool") })).addMetalMachine
    (Laboratory.machine "y" { serverClassRef := some (.ofName "pool") })).addMetalMachine
    (Laboratory.machine "z" { serverClassRef := some (.ofName "pool") })

/-- The class of the pool as it is stored. -/
def crowdedClass : ServerClass :=
  { Laboratory.serverClass ["b", "c", "a", "b"] with
    metadata := { name := some "pool", resourceVersion := some "1" } }

/-- The keys of the three machines. -/
def crowdedKeys : List ObjectKey := ["x", "y", "z"].map Laboratory.key

theorem crowded_race : Race crowded "pool" crowdedClass crowdedKeys where
  arises := ((((Laboratory.store_arises _).removeServer "c").addMetalMachine _).addMetalMachine
    _).addMetalMachine _
  unclaimed _ := rfl
  creates := rfl
  found := rfl
  wellFormed _ selected := nomatch selected
  server_named name available server found := by
    have all_named : crowdedClass.availableServers.all (fun name =>
        (crowded.servers.get? name).all fun server => server.metadata.name.isSome) = true := by
      decide +kernel
    have named := List.all_eq_true.1 all_named name available
    rwa [found] at named
  distinct := by decide +kernel
  entrant key entered := by
    have all_enter : crowdedKeys.all (fun key => (crowded.metalMachines.get? key).any fun machine =>
        machine.metadata.name.isSome && !machine.isDeleting && machine.spec.serverRef.isNone &&
          machine.spec.serverClassRef.map Reference.name == some "pool" &&
          machine.ownerKey? == some (Laboratory.key "owner") && machine.key.space == "lab") =
        true := by decide +kernel
    obtain ⟨machine, found, enters⟩ :=
      (Option.any_eq_true _ _).1 (List.all_eq_true.1 all_enter key entered)
    simp only [Bool.and_eq_true, Bool.not_eq_true', beq_iff_eq, Option.isNone_iff_eq_none] at enters
    obtain ⟨⟨⟨⟨⟨named, stays⟩, serverless⟩, asks⟩, owned⟩, space⟩ := enters
    refine ⟨machine, found, named, stays, serverless, asks, Laboratory.key "owner",
      Laboratory.owner, "cluster", Laboratory.cluster, owned, rfl, rfl, ?_, rfl, rfl, rfl⟩
    rw [space]
    rfl

theorem crowded_eligible : crowded.eligible crowdedClass = ["a", "b"] := by
  have claimable : (crowdedClass.availableServers.filter fun name =>
      (crowded.servers.get? name).any fun server =>
        server.belongs crowdedClass.spec && server.isClaimable) = ["b", "a", "b"] := by
    decide +kernel
  rw [Store.eligible, claimable]
  simp [sortedNames, List.mergeSort, List.eraseReps, List.eraseRepsBy, List.eraseRepsBy.loop]

/-- Of three machines that race for two servers two get one each. -/
theorem race_ends_crowded : ∃ last, (∃ acts, (⟨crowded, []⟩ : Fleet).Run Undisturbed acts last) ∧
    last.store.serverBindings.keys = ["a", "b"] ∧
    (last.store.namesGiven crowdedKeys).Perm ["a", "b"] ∧
    (crowdedKeys.filter fun key => (last.store.reference? key).isSome).length = 2 := by
  obtain ⟨starts, launched⟩ := Fleet.launch_run Undisturbed ⟨crowded, []⟩
    (crowdedKeys.map Subject.machine)
  obtain ⟨answers, last, completed, same, ended⟩ := Fleet.complete_run Undisturbed
    (Fleet.launch ⟨crowded, []⟩ (crowdedKeys.map Subject.machine))
  have run : (⟨crowded, []⟩ : Fleet).Run Undisturbed (starts ++ answers) last :=
    launched.append completed
  have all : last.subjects = crowdedKeys.map Subject.machine := same
  have race : Race (⟨crowded, []⟩ : Fleet).store "pool" crowdedClass crowdedKeys := crowded_race
  obtain ⟨bound, count, given, _⟩ := race_ends race rfl run all ended
  have eligible : (⟨crowded, []⟩ : Fleet).store.eligible crowdedClass = ["a", "b"] :=
    crowded_eligible
  rw [eligible] at bound count
  have keys : last.store.serverBindings.keys = ["a", "b"] := bound
  rw [keys] at given
  exact ⟨last, ⟨_, run⟩, keys, given, count⟩

end BareMetal
