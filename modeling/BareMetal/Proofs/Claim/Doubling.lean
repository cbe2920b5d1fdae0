import BareMetal.Proofs.Claim.Overtaking
import BareMetal.Proofs.Qualification

/-!
# Machines that come to hold two servers

A pass over a machine that names a class lists all bindings, and if the machine holds none it claims
a server.  In between another pass may have claimed one for the same machine.  While nothing is
deleted, this is how a machine comes to hold two servers, and the only way.
-/

namespace BareMetal

open Store

variable {before after store : Store} {told : Hearsay} {machine : MetalMachine}
  {key : ObjectKey} {name : String}

/-! ## Steady stores -/

namespace Store

/-- A store in which bindings have names and all machines stay and hold the servers that they
name. -/
structure Steady (store : Store) : Prop extends store.WellKept where
  /-- Bindings have names. -/
  binding_named : ∀ name binding, store.serverBindings.get? name = some binding →
    binding.metadata.name.isSome = true
  /-- Machines stay and hold the servers that they name. -/
  keeps : ∀ key machine, store.metalMachines.get? key = some machine → store.Keeps machine

/-- No server is taken from its machine. -/
def Grows (before after : Store) : Prop :=
  ∀ machine server, before.Holds machine server → after.Holds machine server

theorem Keeps.of_grows (keeps : before.Keeps machine) (grows : before.Grows after) :
    after.Keeps machine :=
  ⟨keeps.named, keeps.stays, fun server names => grows _ _ (keeps.backed server names)⟩

theorem grows_of_serverBindings (same : after.serverBindings = before.serverBindings) :
    before.Grows after := by
  rintro machine server ⟨binding, found, held⟩
  exact ⟨binding, same ▸ found, held⟩

/-- A store stays steady if no server is taken and each machine was there or holds what it names. -/
theorem Steady.of_grows (steady : before.Steady) (kept : after.WellKept)
    (grows : before.Grows after)
    (named : ∀ name binding, after.serverBindings.get? name = some binding →
      binding.metadata.name.isSome = true)
    (keeps : ∀ key machine, after.metalMachines.get? key = some machine →
      before.metalMachines.get? key = some machine ∨ after.Keeps machine) : after.Steady where
  toWellKept := kept
  binding_named := named
  keeps key machine found := (keeps key machine found).elim
    (fun old => (steady.keeps key machine old).of_grows grows) id

end Store

/-- What a pass was told that stays so while nothing is deleted. -/
structure Lasts (told : Hearsay) (store : Store) : Prop where
  /-- Machines that it saw stay and hold the servers that they name. -/
  saw : ∀ machine, told.Saw machine → store.Keeps machine
  /-- Machines that were shown to hold a server hold it. -/
  shows : ∀ machine server, told.Shows machine server → store.Holds machine server
  /-- Whoever was given a server by a binding holds it. -/
  created : ∀ binding created, (⟨.store (.createServerBinding binding), .ok created⟩ :
    Told PassQuery PassQuery.Answer) ∈ told →
      store.Holds binding.holder (binding.metadata.name.getD "")

theorem lasts_nil (store : Store) : Lasts [] store where
  saw machine saw := by
    rcases saw with ⟨_, read⟩ | ⟨_, _, listed⟩
    · exact nomatch read
    · exact nomatch listed
  shows machine server shows := by
    obtain ⟨_, member, _⟩ := shows
    exact nomatch member
  created binding created member := nomatch member

theorem Lasts.of_grows (lasts : Lasts told before) (grows : before.Grows after) :
    Lasts told after where
  saw machine saw := (lasts.saw machine saw).of_grows grows
  shows machine server shows := grows _ _ (lasts.shows machine server shows)
  created binding created member := grows _ _ (lasts.created binding created member)

theorem Lasts.grants {server : String} (lasts : Lasts told store) (saw : told.Saw machine)
    (grants : told.Grants machine server) : store.Holds machine.key server := by
  rcases grants with shows | ⟨serverClass, created, member⟩
  · exact lasts.shows machine.key server shows
  · have holds := lasts.created _ created member
    rwa [holder_claim (lasts.saw machine saw).named] at holds

/-- What a pass is told lasts. -/
theorem Lasts.answer (lasts : Lasts told before) (steady : before.Steady) {query : PassQuery}
    {answer : query.Answer} (answered : query.Answered before answer after)
    (grows : before.Grows after) : Lasts (told ++ [⟨query, answer⟩]) after := by
  have lasts_after := lasts.of_grows grows
  constructor
  · rintro machine (⟨key, read⟩ | ⟨machines, among, listed⟩)
    · rcases List.mem_append.1 read with earlier | last
      · exact lasts_after.saw machine (.inl ⟨key, earlier⟩)
      · cases List.mem_singleton.1 last
        have found := eq_some_of_found (congrArg Prod.fst answered)
        exact (steady.keeps key machine found).of_grows grows
    · rcases List.mem_append.1 listed with earlier | last
      · exact lasts_after.saw machine (.inr ⟨machines, among, earlier⟩)
      · cases List.mem_singleton.1 last
        have listed : before.metalMachines.values = machines :=
          Except.ok.inj (congrArg Prod.fst answered)
        obtain ⟨key, found⟩ := Dict.mem_values.1 (listed ▸ among)
        exact (steady.keeps key machine found).of_grows grows
  · rintro machine server ⟨shown, member, shows⟩
    rcases List.mem_append.1 member with earlier | last
    · exact lasts_after.shows machine server ⟨shown, earlier, shows⟩
    · cases List.mem_singleton.1 last
      exact grows _ _ (shows.holds answered steady.toWellKept steady.binding_named).1
  · intro binding created member
    rcases List.mem_append.1 member with earlier | last
    · exact lasts_after.created binding created earlier
    · cases List.mem_singleton.1 last
      have creation := before.creation binding
      have reply : (before.createServerBinding binding).1 = .ok created :=
        congrArg Prod.fst answered
      obtain rfl : (before.createServerBinding binding).2 = after := congrArg Prod.snd answered
      rw [reply] at creation
      generalize (before.createServerBinding binding).2 = later at creation
      cases creation with
      | created free =>
          exact ⟨_, Dict.get?_insert_self _ _ _, ServerBinding.isHeldBy_iff.2 rfl⟩

/-! ## Warranted calls -/

/-- Only a deletion takes a server. -/
theorem Store.grows_perform {call : StoreCall} (spares : ∀ name, call ≠ .deleteServerBinding name) :
    store.Grows (store.perform call).2 := by
  intro machine server holds
  have turns : Turns server machine store (.answer 0 (.store call) (store.perform call).1)
      (store.perform call).2 := turns_answered rfl
  refine turns.2 (.inl ⟨holds, ?_⟩)
  rintro ⟨⟩
  exact spares server rfl

/-- While machines stay, a warranted call deletes no binding, and names those that it creates. -/
theorem Subject.Warrants.call {subject : Subject} {call : StoreCall}
    (warranted : subject.Warrants told (.store call)) (lasts : Lasts told store) :
    (∀ name, call ≠ .deleteServerBinding name) ∧ ∀ binding, call = .createServerBinding binding →
      binding.metadata.name.isSome = true := by
  constructor
  · rintro name rfl
    cases subject with
    | machine key =>
        cases warranted with
        | passive passive => exact passive
        | deletes read deleting =>
            exact nomatch (lasts.saw _ (.inl ⟨key, read⟩)).stays.symm.trans deleting
    | server other =>
        cases warranted with
        | passive passive => exact passive
    | _ => exact warranted
  · rintro binding rfl
    cases subject with
    | machine key =>
        cases warranted with
        | passive passive => exact passive.elim
        | claims => rfl
    | server other =>
        cases warranted with
        | passive passive => exact passive.elim
        | claims => rfl
    | _ => exact warranted.elim

/-- A machine that is written back holds the server that it names. -/
theorem Subject.Warrants.backed {subject : Subject} {copy : MetalMachine}
    (warranted : subject.Warrants told (.store (.updateMetalMachine copy)))
    (lasts : Lasts told store) {server : String} (names : copy.namedServer? = some server) :
    store.Holds copy.key server := by
  cases subject with
  | machine key =>
      cases warranted with
      | passive passive => exact passive.elim
      | @writes machine _ read key_eq backed =>
          have saw : told.Saw machine := .inl ⟨key, read⟩
          rw [key_eq]
          exact (backed server names).elim ((lasts.saw machine saw).backed server)
            (lasts.grants saw)
  | server other =>
      cases warranted with
      | passive passive => exact passive.elim
  | _ => exact warranted.elim

/-- A warranted call keeps a store steady and takes no server. -/
theorem Store.Steady.perform (steady : before.Steady) (lasts : Lasts told before)
    {subject : Subject} {call : StoreCall} (warranted : subject.Warrants told (.store call)) :
    (before.perform call).2.Steady ∧ before.Grows (before.perform call).2 := by
  obtain ⟨spares, creates_named⟩ := warranted.call lasts
  have grows : before.Grows (before.perform call).2 := grows_perform spares
  have kept := steady.toWellKept.perform call
  refine ⟨steady.of_grows kept grows (perform_named steady.binding_named creates_named) ?_, grows⟩
  intro key machine found
  obtain ⟨old, found_old, same, spec⟩ := perform_machine_of_get? found
  have keeps := steady.keeps key old found_old
  have key_old := steady.machine_key key old found_old
  refine .inr ⟨same.name_eq ▸ keeps.named, same.isDeleting_eq ▸ keeps.stays, ?_⟩
  intro server names
  rw [same.key_eq]
  rcases spec with spec | ⟨copy, rfl, key_copy, spec⟩
  · rw [MetalMachine.namedServer?, spec] at names
    exact grows _ _ (keeps.backed server names)
  · rw [MetalMachine.namedServer?, spec] at names
    rw [key_old, ← key_copy]
    exact grows _ _ (warranted.backed lasts names)

/-! ## Fleets -/

/-- A machine that names no server. -/
def Serverless (machine : MetalMachine) : Prop := machine.spec.serverRef = none

/-- What comes from outside while nothing is deleted and nobody else names servers. -/
abbrev Joins : Store → Store → Prop := Comes Serverless

/-- A fleet before any pass was started: no server is claimed or named, and no machine is marked
for deletion. -/
structure Vacant (fleet : Fleet) : Prop where
  /-- The store came about by its operations. -/
  arises : fleet.store.Arises
  /-- No pass was started. -/
  no_pass : fleet.passes = []
  /-- There is no binding. -/
  unclaimed : ∀ name, fleet.store.serverBindings.get? name = none
  /-- Machines have names. -/
  machine_named : ∀ key machine, fleet.store.metalMachines.get? key = some machine →
    machine.metadata.name.isSome = true
  /-- No machine is marked for deletion. -/
  stays : ∀ key machine, fleet.store.metalMachines.get? key = some machine →
    machine.isDeleting = false
  /-- No machine names a server. -/
  serverless : ∀ key machine, fleet.store.metalMachines.get? key = some machine →
    Serverless machine

/-- A fleet after some acts, while nothing is deleted. -/
structure Fleet.Lasting (acts : List Act) (fleet : Fleet) : Prop where
  /-- Machines stay and hold the servers that they name. -/
  steady : fleet.store.Steady
  /-- What passes were told lasts. -/
  lasts : ∀ pass, Lasts (toldTo pass acts) fleet.store
  /-- What passes write is warranted by what they were told. -/
  heeds : fleet.Heeding Subject.Warrants acts

theorem Vacant.lasting {fleet : Fleet} (vacant : Vacant fleet) : fleet.Lasting [] where
  steady := {
    toWellKept := vacant.arises.wellKept
    binding_named := fun name _ found =>
      nomatch (vacant.unclaimed name).symm.trans found
    keeps := fun key machine found => .of_serverless (vacant.machine_named key machine found)
      (vacant.stays key machine found) (vacant.serverless key machine found) }
  lasts _ := lasts_nil _
  heeds := Fleet.heeding_nil vacant.no_pass

theorem Store.Comes.rearranges {Kind : MetalMachine → Prop} (comes : Comes Kind before after) :
    Rearranges before after := by
  cases comes with
  | elsewhere leaves => exact .elsewhere leaves
  | machine machine => exact .machine machine

theorem Store.Comes.steady (comes : Joins before after) (steady : before.Steady) :
    after.Steady ∧ before.Grows after := by
  have same := comes.rearranges.serverBindings
  have grows := grows_of_serverBindings same
  refine ⟨steady.of_grows (comes.rearranges.wellKept steady.toWellKept) grows
    (fun name binding found => steady.binding_named name binding (same ▸ found)) ?_, grows⟩
  intro key present found
  cases comes with
  | elsewhere leaves => exact .inl (leaves.metalMachines ▸ found)
  | machine machine serverless named stays =>
      rw [(before.addMetalMachine_claims machine).1, Dict.get?_insert_eq_some] at found
      rcases found with ⟨_, rfl⟩ | ⟨_, old⟩
      · exact .inr (.of_serverless named stays serverless)
      · exact .inl old

section

variable {first middle last : Fleet} {acts front back : List Act} {act : Act} {pass : Nat}

/-- Whatever happens while nothing is deleted, no server is taken. -/
theorem Fleet.Lasting.step {before after : Fleet} (lasting : before.Lasting acts)
    (step : before.Step Joins act after) :
    after.Lasting (acts ++ [act]) ∧ before.store.Grows after.store := by
  have heeds := lasting.heeds.step Subject.pass_warranted step
  suffices settled : after.store.Steady ∧ before.store.Grows after.store ∧
      ∀ pass, Lasts (toldTo pass (acts ++ [act])) after.store from
    ⟨⟨settled.1, settled.2.2, heeds⟩, settled.2.1⟩
  simp only [toldTo_append_singleton]
  cases step with
  | start =>
      refine ⟨lasting.steady, fun _ _ holds => holds, fun pass => ?_⟩
      rw [Act.toldTo, Option.toList_none, List.append_nil]
      exact lasting.lasts pass
  | outside comes =>
      obtain ⟨steady, grows⟩ := comes.steady lasting.steady
      refine ⟨steady, grows, fun pass => ?_⟩
      rw [Act.toldTo, Option.toList_none, List.append_nil]
      exact (lasting.lasts pass).of_grows grows
  | @answer asker subject query _ answer store at_query answered =>
      have kept : store.Steady ∧ before.store.Grows store := by
        cases query with
        | store call =>
            obtain rfl : (before.store.perform call).2 = store := congrArg Prod.snd answered
            exact lasting.steady.perform (lasting.lasts asker) (lasting.heeds asker _ at_query).1
        | _ =>
            obtain rfl : store = before.store := answered
            exact ⟨lasting.steady, fun _ _ holds => holds⟩
      refine ⟨kept.1, kept.2, fun pass => ?_⟩
      rw [Act.toldTo]
      split
      · rename_i same
        subst same
        exact (lasting.lasts asker).answer lasting.steady answered kept.2
      · rw [Option.toList_none, List.append_nil]
        exact (lasting.lasts pass).of_grows kept.2

theorem Fleet.Lasting.run (lasting : middle.Lasting front) (run : middle.Run Joins back last) :
    last.Lasting (front ++ back) ∧ middle.store.Grows last.store := by
  induction run with
  | refl =>
      rw [List.append_nil]
      exact ⟨lasting, fun _ _ holds => holds⟩
  | step _ step ih =>
      obtain ⟨lasting_before, grows⟩ := ih
      obtain ⟨lasting_after, grows_again⟩ := lasting_before.step step
      rw [← List.append_assoc]
      exact ⟨lasting_after, fun machine server holds => grows_again _ _ (grows _ _ holds)⟩

/-! ## Claims -/

/-- Who is held in the end was claimed in the course of the run. -/
theorem Vacant.claimed_of_holds (vacant : Vacant first) (run : first.Run Joins acts last)
    (holds : last.store.Holds key name) : ∃ act ∈ acts, act.Claims name key := by
  refine (run.mono fun _ _ => Comes.rearranges).claimed ?_ holds
  rintro ⟨binding, found, _⟩
  exact nomatch (vacant.unclaimed name).symm.trans found

/-- What was claimed in the course of a run is held in the end. -/
theorem Vacant.holds_of_claims (vacant : Vacant first) (run : first.Run Joins acts last)
    (member : act ∈ acts) (claims : act.Claims name key) : last.store.Holds key name := by
  obtain ⟨front, back, splits⟩ := List.append_of_mem member
  obtain ⟨before, after, reached, step, goes_on⟩ := run.split splits
  obtain ⟨lasting, _⟩ := vacant.lasting.run reached
  have holds : after.store.Holds key name := step.holds_of_claims claims
  exact ((lasting.step step).1.run goes_on).2 _ _ holds

/-- A pass claims a server only for a machine that it was shown to hold none. -/
theorem Fleet.Lasting.shows_none {before after : Fleet} (lasting : before.Lasting acts)
    (step : before.Step Joins act after) (claims : act.Claims name key) :
    ∃ pass, (act.toldTo pass).isSome = true ∧
      ∃ shown ∈ toldTo pass acts, ShowsNone key shown := by
  have free : ¬before.store.Holds key name := step.not_holds_of_claims claims
  cases claims with
  | @create pass binding created named held =>
      obtain ⟨subject, _, warranted⟩ := lasting.heeds.permitted step
      have lasts := lasting.lasts pass
      refine ⟨pass, by rw [Act.toldTo, if_pos rfl]; rfl, ?_⟩
      -- A machine that names the server would hold it.
      have unnamed : ∀ {machine : MetalMachine} {server : String} {serverClass : Option Reference},
          (toldTo pass acts).Saw machine → binding = claim machine server serverClass →
            machine.key = key ∧ machine.namedServer? ≠ some server := by
        rintro machine server serverClass saw rfl
        obtain rfl : server = name := named
        have holder := ServerBinding.isHeldBy_iff.1 held
        rw [holder_claim (lasts.saw machine saw).named] at holder
        exact ⟨holder, fun names => free (holder ▸ (lasts.saw machine saw).backed _ names)⟩
      cases subject with
      | machine looked =>
          cases warranted with
          | passive passive => exact passive.elim
          | claims read entitles =>
              obtain ⟨rfl, names_other⟩ := unnamed (.inl ⟨looked, read⟩) rfl
              rcases entitles.lacks with ⟨names, _⟩ | ⟨_, shown⟩
              · exact absurd names names_other
              · exact shown
      | server looked =>
          cases warranted with
          | passive passive => exact passive.elim
          | claims saw names stays => exact absurd names (unnamed saw rfl).2
      | _ => exact warranted.elim

/-- What shows a machine to hold no server is told in a store where this is so. -/
theorem ShowsNone.not_holds {answered : Told PassQuery PassQuery.Answer}
    (shows : ShowsNone key answered)
    (so : answered.query.Answered before answered.answer after) : ¬before.Holds key name := by
  cases shows with
  | @listed bindings none_held =>
      have listed : before.serverBindings.values = bindings := Except.ok.inj (congrArg Prod.fst so)
      rintro ⟨binding, found, held⟩
      have member : binding ∈ bindingsOf key bindings :=
        List.mem_filter.2 ⟨listed ▸ Dict.mem_values.2 ⟨name, found⟩, held⟩
      rw [none_held] at member
      exact nomatch member

/-! ## Races -/

/-- A pass was shown that a machine holds no server, meanwhile a server was claimed for it, and then
the pass claimed one too. -/
def Raced (key : ObjectKey) (acts : List Act) : Prop :=
  ∃ front listing middle claim back, acts = front ++ listing :: (middle ++ claim :: back) ∧
    (∃ pass shown, listing.toldTo pass = some shown ∧ ShowsNone key shown ∧
      (claim.toldTo pass).isSome = true) ∧
    (∃ rival ∈ middle, ∃ name, rival.Claims name key) ∧ ∃ name, claim.Claims name key

theorem Act.Claims.name_eq {server other : String} (claims : act.Claims server key)
    (claims_too : act.Claims other key) : server = other := by
  cases claims with
  | create _ named =>
      cases claims_too with
      | create _ named_too => exact named.symm.trans named_too

/-- Of two claims for a machine one comes first. -/
theorem exists_ordered_claims {server other : String} (differ : server ≠ other)
    (claimed : ∃ act ∈ acts, act.Claims server key)
    (claimed_too : ∃ act ∈ acts, act.Claims other key) :
    ∃ front rival claim back, acts = front ++ claim :: back ∧ rival ∈ front ∧
      (∃ name, rival.Claims name key) ∧ ∃ name, claim.Claims name key := by
  obtain ⟨act, member, claims⟩ := claimed
  obtain ⟨act_too, member_too, claims_too⟩ := claimed_too
  obtain ⟨front, back, rfl⟩ := List.append_of_mem member
  rcases List.mem_append.1 member_too with earlier | later
  · exact ⟨front, act_too, act, back, rfl, earlier, ⟨other, claims_too⟩, server, claims⟩
  · rcases List.mem_cons.1 later with rfl | later
    · exact absurd (claims.name_eq claims_too) differ
    · obtain ⟨between, rest, rfl⟩ := List.append_of_mem later
      exact ⟨front ++ act :: between, act, act_too, rest, by simp, by simp, ⟨server, claims⟩,
        other, claims_too⟩

/-- While nothing is deleted, a machine that named no server comes to hold two exactly if a pass
claimed one after it was shown that the machine holds none, and another was claimed in between. -/
theorem holds_two_iff_raced (vacant : Vacant first) (run : first.Run Joins acts last) :
    (∃ server other, server ≠ other ∧ last.store.Holds key server ∧ last.store.Holds key other) ↔
      Raced key acts := by
  constructor
  · rintro ⟨server, other, differ, holds, holds_too⟩
    obtain ⟨front, rival, claim, back, rfl, earlier, ⟨rival_name, rival_claims⟩, name, claims⟩ :=
      exists_ordered_claims differ (vacant.claimed_of_holds run holds)
        (vacant.claimed_of_holds run holds_too)
    obtain ⟨before, after, reached, step, _⟩ := run.split rfl
    obtain ⟨pass, answered, shown, told, shows⟩ :=
      (vacant.lasting.run reached).1.shows_none step claims
    obtain ⟨start, listing, between, rfl, tells⟩ := exists_act_of_mem_toldTo told
    refine ⟨start, listing, between, claim, back, by simp, ⟨pass, shown, tells, shows, answered⟩,
      ⟨rival, ?_, rival_name, rival_claims⟩, name, claims⟩
    obtain ⟨looked, _, looks, listed, _⟩ := reached.split rfl
    have free : ¬looked.store.Holds key rival_name :=
      shows.not_holds (listed.answered_of_toldTo tells)
    rcases List.mem_append.1 earlier with too_early | later
    · exact absurd (vacant.holds_of_claims looks too_early rival_claims) free
    · rcases List.mem_cons.1 later with rfl | later
      · obtain rfl := Act.eq_of_toldTo tells
        cases shows
        exact nomatch rival_claims
      · exact later
  · rintro ⟨front, listing, middle, claim, back, splits, _, ⟨rival, member, other, rival_claims⟩,
      name, claims⟩
    have regrouped : acts = (front ++ listing :: middle) ++ claim :: back := by simp [splits]
    obtain ⟨before, after, reached, step, _⟩ := run.split regrouped
    have rival_holds : before.store.Holds key other :=
      vacant.holds_of_claims reached (by simp [member]) rival_claims
    have differ : name ≠ other := by
      rintro rfl
      exact step.not_holds_of_claims claims rival_holds
    exact ⟨name, other, differ, vacant.holds_of_claims run (by simp [splits]) claims,
      vacant.holds_of_claims run (by simp [splits, member]) rival_claims⟩

end

/-- A store with a machine that names a class of two servers, without bindings. -/
def abundant : Store :=
  (Laboratory.store ["s", "t"]).addMetalMachine
    (Laboratory.machine "a" { serverClassRef := some (.ofName "pool") })

/-- Two passes over the machine side by side: both see that it holds no server. -/
def doubled : Fleet :=
  (Fleet.launch ⟨abundant, []⟩ [.machine (Laboratory.key "a"), .machine (Laboratory.key "a")]).play
    (List.replicate 14 [0, 1]).flatten

theorem doubled_run (Outside : Store → Store → Prop) :
    ∃ acts, (⟨abundant, []⟩ : Fleet).Run Outside acts doubled := by
  obtain ⟨starts, launched⟩ := Fleet.launch_run Outside ⟨abundant, []⟩
    [.machine (Laboratory.key "a"), .machine (Laboratory.key "a")]
  obtain ⟨answers, played⟩ := Fleet.play_run Outside (Fleet.launch ⟨abundant, []⟩
    [.machine (Laboratory.key "a"), .machine (Laboratory.key "a")])
    (List.replicate 14 [0, 1]).flatten
  exact ⟨starts ++ answers, launched.append played⟩

theorem doubled_holds : doubled.store.Holds (Laboratory.key "a") "s" ∧
    doubled.store.Holds (Laboratory.key "a") "t" := by
  -- Merging does not reduce; so the pass is opened down to the place where it sorts.
  simp only [doubled, Fleet.launch, List.map, Subject.start, Subject.pass, machinePass,
    currentMachinePass, allocate, allocateFromClass, serverFromClass, claimFromClass,
    qualifiedServers, mergeSort_inNameOrder_eq]
  decide +kernel

theorem abundant_vacant : Vacant ⟨abundant, []⟩ := by
  have only_good : abundant.metalMachines.entries.all (fun entry =>
      entry.2.metadata.name.isSome && !entry.2.isDeleting && entry.2.spec.serverRef.isNone) =
        true := by decide +kernel
  have good : ∀ key machine, abundant.metalMachines.get? key = some machine →
      (machine.metadata.name.isSome = true ∧ machine.isDeleting = false) ∧
        Serverless machine := by
    intro key machine found
    have passes := List.all_eq_true.1 only_good _ (Dict.get?_eq_some_iff.1 found)
    simpa [Serverless] using passes
  exact {
    arises := (Laboratory.store_arises ["s", "t"]).addMetalMachine
      (Laboratory.machine "a" { serverClassRef := some (.ofName "pool") })
    no_pass := rfl
    unclaimed := fun _ => rfl
    machine_named := fun key machine found => (good key machine found).1.1
    stays := fun key machine found => (good key machine found).1.2
    serverless := fun key machine found => (good key machine found).2 }

/-- With passes over machines alone, of which none is deleted or names a server at first, it happens
that a machine comes to hold two servers. -/
theorem machine_holds_two : ∃ acts, Vacant ⟨abundant, []⟩ ∧
    (⟨abundant, []⟩ : Fleet).Run (fun _ _ => False) acts doubled ∧
      (∀ subject ∈ doubled.subjects, subject = .machine (Laboratory.key "a")) ∧
        doubled.store.Holds (Laboratory.key "a") "s" ∧
          doubled.store.Holds (Laboratory.key "a") "t" := by
  obtain ⟨acts, run⟩ := doubled_run fun _ _ => False
  have subjects : doubled.subjects =
      [.machine (Laboratory.key "a"), .machine (Laboratory.key "a")] := Fleet.play_subjects _ _
  exact ⟨acts, abundant_vacant, run, by simp [subjects], doubled_holds⟩

/-- It was a race that gave the machine two servers. -/
theorem holds_two_iff_raced_doubled : ∃ acts, Vacant ⟨abundant, []⟩ ∧
    (⟨abundant, []⟩ : Fleet).Run Joins acts doubled ∧ Raced (Laboratory.key "a") acts := by
  obtain ⟨acts, run⟩ := doubled_run Joins
  exact ⟨acts, abundant_vacant, run, (holds_two_iff_raced abundant_vacant run).1
    ⟨"s", "t", by decide, doubled_holds⟩⟩

end BareMetal
