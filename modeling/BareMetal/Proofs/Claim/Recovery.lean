import BareMetal.Proofs.Claim.Adoption
import BareMetal.Proofs.Claim.Overtaking
import BareMetal.Proofs.Orderly

/-!
# Machines that recover their server

A pass over a machine that names a class claims a server first and writes the machine back
afterwards, and it may be given up in between.  If passes over one object follow each other, at most
one server is ever claimed for the machine, and each pass that starts when it is there adopts it.
Two things have to hold for this that the store itself does not see to: no other machine claims in
the name of the machine, and bindings go by the names that they lie under.
-/

namespace BareMetal

open Store

variable {key machine : ObjectKey} {name server : String} {first before after last : Fleet}
  {acts front back : List Act} {act : Act} {pass : Nat}
  {goal : Nat → Except PassError Outcome → Store → Prop}

/-! ## The setting -/

/-- A fleet before any pass was started, with a machine that names a class and holds no server. -/
structure Unserved (key : ObjectKey) (fleet : Fleet) : Prop where
  /-- The store came about by its operations. -/
  arises : fleet.store.Arises
  /-- No pass was started. -/
  no_pass : fleet.passes = []
  /-- The machine has a name, stays, and names a class and no server. -/
  asks : ∃ machine, fleet.store.metalMachines.get? key = some machine ∧
    machine.metadata.name.isSome = true ∧ machine.isDeleting = false ∧
      machine.spec.serverRef = none ∧ machine.spec.serverClassRef.isSome = true
  /-- No binding points at the machine. -/
  holds_nothing : fleet.store.HoldsNothing key

namespace Store

/-- What comes from outside while only passes delete bindings, claim for the machine of a key, or
write its reference. -/
inductive Tolerates (key : ObjectKey) (before : Store) : Store → Prop
  /-- Neither bindings nor metal machines change. -/
  | elsewhere {after : Store} (leaves : LeavesClaims before after) : Tolerates key before after
  /-- A binding is put in that does not point at the machine. -/
  | newBinding (binding : ServerBinding)
      (anyName : binding.anyName = binding.metadata.name.getD "")
      (unused : before.serverBindings.get? (binding.metadata.name.getD "") = none)
      (elsewhere : binding.holder ≠ key) : Tolerates key before (before.addServerBinding binding)
  /-- A binding changes, but not in its name and its holder. -/
  | binding {old : ServerBinding} (binding : ServerBinding)
      (found : before.serverBindings.get? (binding.metadata.name.getD "") = some old)
      (anyName : binding.anyName = binding.metadata.name.getD "")
      (holder : binding.holder = old.holder) :
      Tolerates key before (before.addServerBinding binding)
  /-- Another machine is put in, new or changed, that does not claim in the name of the machine. -/
  | other (machine : MetalMachine) (differs : machine.key ≠ key)
      (claimant : machine.claimant ≠ key) : Tolerates key before (before.addMetalMachine machine)
  /-- Another machine goes. -/
  | gone (other : ObjectKey) (differs : other ≠ key) :
      Tolerates key before (before.withoutMachine other)
  /-- The machine changes, but it stays and names the same server and some class. -/
  | own {old : MetalMachine} (machine : MetalMachine)
      (found : before.metalMachines.get? machine.key = some old) (key_eq : machine.key = key)
      (named : machine.metadata.name.isSome = true) (stays : machine.isDeleting = false)
      (serverRef : machine.spec.serverRef = old.spec.serverRef)
      (classed : machine.spec.serverClassRef.isSome = true) :
      Tolerates key before (before.addMetalMachine machine)

end Store

/-- A server is claimed at most once for the machine of a key. -/
def ClaimedOnce (key : ObjectKey) (acts : List Act) : Prop :=
  acts.Pairwise fun earlier later => ∀ name other, earlier.Claims name key →
    ¬later.Claims other key

theorem not_claimedOnce_append (claimed : ∃ act ∈ front, act.Claims name key)
    (claimed_again : ∃ act ∈ back, act.Claims server key) : ¬ClaimedOnce key (front ++ back) := by
  obtain ⟨claim, member, claims⟩ := claimed
  obtain ⟨claim_again, member_again, claims_again⟩ := claimed_again
  intro once
  exact (List.pairwise_append.1 once).2.2 claim member claim_again member_again name server claims
    claims_again

/-! ## Changes from outside -/

section

variable {store later : Store} {subject : Subject}

theorem holds_addServerBinding_iff (binding : ServerBinding) :
    (store.addServerBinding binding).Holds machine server ↔
      if server = binding.metadata.name.getD "" then binding.holder = machine
      else store.Holds machine server := by
  by_cases same : server = binding.metadata.name.getD ""
  · subst same
    have found : (store.addServerBinding binding).serverBindings.get?
        (binding.metadata.name.getD "") = some _ := Dict.get?_insert_self _ _ _
    rw [if_pos rfl, Store.Holds, found]
    constructor
    · rintro ⟨_, ⟨⟩, held⟩
      exact ServerBinding.isHeldBy_iff.1 held
    · exact fun holder => ⟨_, rfl, ServerBinding.isHeldBy_iff.2 holder⟩
  · have look : (store.addServerBinding binding).serverBindings.get? server =
        store.serverBindings.get? server := Dict.get?_insert_of_ne same _ _
    rw [if_neg same, Store.Holds, Store.Holds, look]

/-- A binding may be put in that gives the server to whom it was given before, or else to another
machine. -/
theorem Store.Recovering.addServerBinding (sound : store.Recovering key) (binding : ServerBinding)
    (anyName : binding.anyName = binding.metadata.name.getD "")
    (kept : ∀ machine, store.Holds machine (binding.metadata.name.getD "") →
      binding.holder = machine)
    (own : binding.holder = key → store.Holds key (binding.metadata.name.getD "")) :
    (store.addServerBinding binding).Recovering key ∧
      Respects key subject store (store.addServerBinding binding) := by
  have grows : ∀ machine server, store.Holds machine server →
      (store.addServerBinding binding).Holds machine server := by
    intro machine server holds
    refine (holds_addServerBinding_iff binding).2 ?_
    split
    · rename_i same
      exact kept machine (same ▸ holds)
    · exact holds
  have gains : ∀ server, (store.addServerBinding binding).Holds key server →
      store.Holds key server := by
    intro server holds
    have was := (holds_addServerBinding_iff binding).1 holds
    split at was
    · rename_i same
      exact same ▸ own was
    · exact was
  refine ⟨sound.of_bindings (sound.toWellKept.insert_binding _ rfl rfl rfl (Nat.le_succ _)) rfl ?_
    (grows key) ?_, fun machine _ => grows machine, fun _ => gains, fun _ => rfl⟩
  · intro name present found
    rcases Dict.get?_insert_eq_some.1 found with ⟨rfl, rfl⟩ | ⟨_, found⟩
    · exact anyName
    · exact sound.anyName name present found
  · exact fun server other holds holds_too =>
      sound.single server other (gains server holds) (gains other holds_too)

theorem Store.Respects.of_serverBindings (serverBindings : later.serverBindings =
    store.serverBindings) (reference : later.reference? key = store.reference? key) :
    Respects key subject store later := by
  have holds_iff : ∀ machine server, later.Holds machine server ↔ store.Holds machine server :=
    fun _ _ => holds_congr serverBindings
  exact ⟨fun machine _ server => (holds_iff machine server).2,
    fun _ server => (holds_iff key server).1, fun _ => reference⟩

/-- What comes from outside takes no server and gives the machine none. -/
theorem Store.Tolerates.respects (tolerates : Tolerates key store later)
    (sound : store.Recovering key) (subject : Subject) :
    later.Recovering key ∧ Respects key subject store later := by
  cases tolerates with
  | elsewhere leaves =>
      refine ⟨sound.of_leavesClaims leaves, .of_serverBindings leaves.serverBindings ?_⟩
      exact reference?_congr (congrArg (·.get? key) leaves.metalMachines)
  | newBinding binding anyName unused elsewhere =>
      refine sound.addServerBinding binding anyName ?_ fun own => absurd own elsewhere
      rintro machine ⟨present, found, _⟩
      exact nomatch unused.symm.trans found
  | @binding old binding found anyName holder =>
      refine sound.addServerBinding binding anyName ?_ fun own => ?_
      · rintro machine ⟨present, found_present, held⟩
        obtain rfl : old = present := Option.some.inj (found.symm.trans found_present)
        exact holder.trans (ServerBinding.isHeldBy_iff.1 held)
      · exact ⟨old, found, ServerBinding.isHeldBy_iff.2 (holder.symm.trans own)⟩
  | other machine differs claimant =>
      obtain ⟨metalMachines, serverBindings, _⟩ := store.addMetalMachine_claims machine
      have same : (store.addMetalMachine machine).metalMachines.get? key =
          store.metalMachines.get? key := by
        rw [metalMachines, Dict.get?_insert_of_ne differs.symm]
      refine ⟨sound.of_machines (sound.toWellKept.addMetalMachine machine) serverBindings ?_ ?_,
        .of_serverBindings serverBindings (reference?_congr same)⟩
      · intro some_key present found own
        rw [metalMachines, Dict.get?_insert_eq_some] at found
        rcases found with ⟨_, rfl⟩ | ⟨_, found⟩
        · exact absurd own claimant
        · exact sound.claimant some_key present found own
      · obtain ⟨present, found, rest⟩ := sound.own
        exact ⟨present, same.trans found, rest⟩
  | gone other differs =>
      have permits : (recovering key subject).Permits store (store.withoutMachine other) :=
        sound.withoutMachine differs
      exact ⟨permits.1, .of_serverBindings rfl (reference?_congr (get?_withoutMachine differs))⟩
  | @own old machine found key_eq named stays serverRef classed =>
      subst key_eq
      obtain ⟨metalMachines, serverBindings, _⟩ := store.addMetalMachine_claims machine
      have found_after : (store.addMetalMachine machine).metalMachines.get? machine.key =
          some (store.addedMachine machine) := by rw [metalMachines, Dict.get?_insert_self]
      have keeps := (sound.of_get? found).1
      have backed : ∀ server, machine.namedServer? = some server →
          store.Holds machine.key server := by
        intro server names
        rw [MetalMachine.namedServer?, serverRef] at names
        have holds := keeps.backed server names
        rwa [sound.machine_key _ old found] at holds
      refine ⟨sound.of_machines (sound.toWellKept.addMetalMachine machine) serverBindings ?_
        ⟨_, found_after, ⟨named, stays, backed⟩, classed⟩, .of_serverBindings serverBindings ?_⟩
      · intro some_key present found_some own
        rw [metalMachines, Dict.get?_insert_eq_some] at found_some
        rcases found_some with ⟨rfl, _⟩ | ⟨_, found_some⟩
        · rfl
        · exact sound.claimant some_key present found_some own
      · rw [reference?_of_get? found_after, reference?_of_get? found, ← serverRef]
        rfl

end

/-! ## Fleets -/

/-- A fleet in which a machine is to come to hold one server, and in which each current pass is on
its terms. -/
structure Fleet.Recovers (key : ObjectKey) (goal : Nat → Except PassError Outcome → Store → Prop)
    (fleet : Fleet) : Prop where
  /-- The machine holds at most one server and names no other. -/
  sound : fleet.store.Recovering key
  /-- Current passes are on their terms. -/
  secured : fleet.CurrentSecured (recovering key) goal

theorem Fleet.Recovers.answer (recovers : before.Recovers key goal) {subject : Subject}
    {query : PassQuery} {next : query.Answer → Pass (Except PassError Outcome)}
    {answer : query.Answer} {store : Store}
    (at_query : before.passes[pass]? = some ⟨subject, .ask query next⟩)
    (answered : query.Answered before.store answer store) (current : before.Current pass) :
    Recovers key goal ⟨store, before.passes.set pass ⟨subject, next answer⟩⟩ ∧
      Honours key subject before.store store := by
  obtain ⟨sound, honours, secured⟩ := recovers.secured.answer at_query answered current
    recovers.sound fun _ differs honours => Honours.respects honours differs
  exact ⟨⟨sound, secured⟩, honours⟩

/-- Whatever happens in an orderly run, the machine keeps its server. -/
theorem Fleet.Recovers.step (recovers : before.Recovers key goal)
    (step : before.Step (Tolerates key) act after)
    (current : ∀ pass query answer, act = .answer pass query answer → before.Current pass)
    (starts : ∀ subject : Subject, subject.pass.Secures (recovering key subject)
      (goal before.passes.length) before.store) :
    after.Recovers key goal ∧ ∀ server, before.store.Holds key server →
      after.store.Holds key server := by
  cases step with
  | start subject => exact ⟨⟨recovers.sound, recovers.secured.start (starts subject)⟩, fun _ => id⟩
  | outside tolerates =>
      have respects := tolerates.respects recovers.sound
      exact ⟨⟨(respects (.machine key)).1, recovers.secured.outside fun subject =>
        (respects subject).2⟩, (respects (.machine key)).2.holds key (.inl rfl)⟩
  | answer at_query answered =>
      obtain ⟨recovers_after, honours⟩ :=
        recovers.answer at_query answered (current _ _ _ rfl)
      exact ⟨recovers_after, honours.holds key (.inl rfl)⟩

/-- A pass over a machine that holds a server creates no binding. -/
theorem Fleet.Recovers.creates_none (recovers : before.Recovers key goal)
    (holds : before.store.Holds key server)
    (subject_at : before.subjects[pass]? = some (.machine key)) (current : before.Current pass)
    (binding created : ServerBinding) : ¬before.Step (Tolerates key)
      (.answer pass (.store (.createServerBinding binding)) (.ok created)) after := by
  intro step
  cases step with
  | @answer _ subject _ _ _ store at_query answered =>
      obtain rfl : subject = .machine key :=
        Option.some.inj ((subjects_at at_query).symm.trans subject_at)
      obtain ⟨_, honours⟩ := recovers.answer at_query answered current
      have creation := before.store.creation binding
      have reply : (before.store.createServerBinding binding).1 = .ok created :=
        congrArg Prod.fst answered
      obtain rfl : (before.store.createServerBinding binding).2 = store :=
        congrArg Prod.snd answered
      rw [reply] at creation
      generalize (before.store.createServerBinding binding).2 = later at creation honours
      cases creation with
      | created free =>
          have still_free := honours.idle rfl server holds _ free
          exact nomatch still_free.symm.trans (Dict.get?_insert_self _ _ _)

/-! ## Runs -/

theorem Unserved.recovers (unserved : Unserved key first)
    (unmistaken : first.store.Unmistaken key) : first.Recovers key goal := by
  obtain ⟨machine, found, named, stays, serverless, classed⟩ := unserved.asks
  have keeps : first.store.Keeps machine := .of_serverless named stays serverless
  refine ⟨⟨unserved.arises.wellKept, unmistaken, ⟨machine, found, keeps, classed⟩, ?_⟩, ?_⟩
  · exact fun server _ holds => absurd holds (holdsNothing_iff.1 unserved.holds_nothing server)
  · intro pass running at_pass
    simp [unserved.no_pass] at at_pass

/-- In an orderly run a server is claimed at most once for the machine, which then holds it. -/
theorem Unserved.run (unserved : Unserved key first) (unmistaken : first.store.Unmistaken key)
    (orderly : first.Orderly (Tolerates key) acts last) :
    last.Recovers key (fun _ _ _ => True) ∧
      (∀ act ∈ acts, ∀ name, act.Claims name key → last.store.Holds key name) ∧
        ClaimedOnce key acts := by
  induction orderly with
  | refl => exact ⟨unserved.recovers unmistaken, by simp, .nil⟩
  | @step acts before after act _ step current ih =>
      obtain ⟨recovers, held, once⟩ := ih
      obtain ⟨recovers_after, keeps⟩ :=
        recovers.step step current fun subject => pass_recovering key subject before.store
      refine ⟨recovers_after, ?_, List.pairwise_append.2 ⟨once, List.pairwise_singleton _ _, ?_⟩⟩
      · intro earlier member name claims
        rcases List.mem_append.1 member with member | member
        · exact keeps name (held earlier member name claims)
        · exact step.holds_of_claims (List.mem_singleton.1 member ▸ claims)
      · intro earlier member later member_later name other claims claims_later
        obtain rfl := List.mem_singleton.1 member_later
        have holds := held earlier member name claims
        obtain rfl : name = other :=
          recovers_after.sound.single name other (keeps name holds)
            (step.holds_of_claims claims_later)
        exact step.not_holds_of_claims claims_later holds

/-- One pass is to adopt a server, and the others are to keep to their terms. -/
def AdoptsIn (key : ObjectKey) (server : String) (chosen pass : Nat)
    (result : Except PassError Outcome) (later : Store) : Prop :=
  pass = chosen → Adopts key server result later

/-- A pass over a machine that holds a server is under way, and creates no binding. -/
theorem Fleet.Recovers.adopting {chosen : Nat}
    (recovers : first.Recovers key (AdoptsIn key server chosen))
    (holds : first.store.Holds key server)
    (subject_at : first.subjects[chosen]? = some (.machine key))
    (orderly : first.Orderly (Tolerates key) acts last) :
    last.Recovers key (AdoptsIn key server chosen) ∧ last.store.Holds key server ∧
      last.subjects[chosen]? = some (.machine key) ∧ ∀ binding created,
        Act.answer chosen (.store (.createServerBinding binding)) (.ok created) ∉ acts := by
  induction orderly with
  | refl => exact ⟨recovers, holds, subject_at, by simp⟩
  | @step acts before after act _ step current ih =>
      obtain ⟨recovers_before, holds_before, subject_before, creates_none⟩ := ih
      have within : chosen < before.passes.length := by
        simpa [subjects] using (List.getElem?_eq_some_iff.1 subject_before).1
      obtain ⟨recovers_after, keeps⟩ := recovers_before.step step current fun subject =>
        (pass_recovering key subject before.store).weaken
          fun _ _ _ _ same => absurd same (Nat.ne_of_gt within)
      refine ⟨recovers_after, keeps server holds_before, ?_, fun binding created member => ?_⟩
      · obtain ⟨started, same⟩ := step.subjects_grow
        rw [← same, List.getElem?_append_left (List.getElem?_eq_some_iff.1 subject_before).1]
        exact subject_before
      · rcases List.mem_append.1 member with member | member
        · exact creates_none binding created member
        · obtain rfl := List.mem_singleton.1 member
          exact recovers_before.creates_none holds_before subject_before (current _ _ _ rfl) binding
            created step

/-- If passes over one object follow each other, at most one server is claimed for a machine that
names a class.  Each pass over the machine that starts when it holds a server creates no binding,
and unless it ends in front of the gates or its write is refused, it leaves the machine naming that
server. -/
theorem claimed_once_and_adopted (unserved : Unserved key first)
    (unmistaken : first.store.Unmistaken key)
    (reached : first.Orderly (Tolerates key) front before) :
    ClaimedOnce key front ∧ ∀ server, before.store.Holds key server → ∀ back last,
      (before.launch [.machine key]).Orderly (Tolerates key) back last →
        (∀ binding created, Act.answer before.passes.length
          (.store (.createServerBinding binding)) (.ok created) ∉ back) ∧
        ∀ result, last.passes[before.passes.length]? = some ⟨.machine key, .done result⟩ →
          last.Current before.passes.length → Adopts key server result last.store := by
  obtain ⟨recovers, _, once⟩ := unserved.run unmistaken reached
  refine ⟨once, fun server holds back last orderly => ?_⟩
  have secured : before.CurrentSecured (recovering key)
      (AdoptsIn key server before.passes.length) :=
    fun pass running found current => (recovers.secured pass running found current).weaken
      fun _ _ _ _ same => absurd same (Nat.ne_of_lt (List.getElem?_eq_some_iff.1 found).1)
  have starts : (Subject.machine key).pass.Secures (recovering key (.machine key))
      (AdoptsIn key server before.passes.length before.passes.length) before.store :=
    (machinePass_adopts holds).weaken fun _ _ _ adopts _ => adopts
  have launched : (before.launch [.machine key]).Recovers key
      (AdoptsIn key server before.passes.length) := ⟨recovers.sound, secured.start starts⟩
  obtain ⟨recovers_last, _, _, creates_none⟩ :=
    launched.adopting holds (before.subjects_launch_self (.machine key)) orderly
  refine ⟨creates_none, fun result found current => ?_⟩
  exact recovers_last.secured _ _ found current last.store recovers_last.sound
    ((recovering key (.machine key)).rely_refl _) rfl

/-! ## A pass that was given up -/

/-- What a pass that went through said in the end. -/
def Running.outcome? : Running → Option Outcome
  | ⟨_, .done (.ok outcome)⟩ => some outcome
  | _ => none

theorem Running.rest_eq_of_outcome? {running : Running} {outcome : Outcome}
    (ended : running.outcome? = some outcome) : running.rest = .done (.ok outcome) := by
  unfold outcome? at ended
  split at ended
  · rw [Option.some.inj ended]
  · exact nomatch ended

theorem unserved_of_any {store : Store} (arises : store.Arises)
    (asks : (store.metalMachines.get? key).any (fun machine => machine.metadata.name.isSome &&
      !machine.isDeleting && machine.spec.serverRef.isNone &&
        machine.spec.serverClassRef.isSome) = true)
    (free : store.serverBindings.entries.all (fun entry => !entry.2.isHeldBy key) = true) :
    Unserved key ⟨store, []⟩ := by
  obtain ⟨machine, found, asks⟩ := (Option.any_eq_true _ _).1 asks
  simp only [Bool.and_eq_true, Bool.not_eq_true', Option.isNone_iff_eq_none] at asks
  obtain ⟨⟨⟨named, stays⟩, serverless⟩, classed⟩ := asks
  refine ⟨arises, rfl, ⟨machine, found, named, stays, serverless, classed⟩, ?_⟩
  intro name binding found_binding
  simpa using List.all_eq_true.1 free _ (Dict.get?_eq_some_iff.1 found_binding)

/-- A store with a machine that names a class. -/
def modest : Store :=
  (Laboratory.store ["s"]).addMetalMachine
    (Laboratory.machine "a" { serverClassRef := some (.ofName "pool") })

/-- A pass over the machine is given up as soon as it claimed a server. -/
def interrupted : Fleet := Fleet.pursue ⟨modest, []⟩ (.machine (Laboratory.key "a")) 9

/-- The next pass over the machine runs to its end. -/
def resumed : Fleet := interrupted.pursue (.machine (Laboratory.key "a")) 20

theorem modest_unserved : Unserved (Laboratory.key "a") ⟨modest, []⟩ :=
  unserved_of_any ((Laboratory.store_arises ["s"]).addMetalMachine _) (by decide +kernel)
    (by decide +kernel)

theorem modest_unmistaken : modest.Unmistaken (Laboratory.key "a") := by
  have only_one : modest.metalMachines.entries.all (fun entry =>
      entry.1 == Laboratory.key "a") = true := by decide +kernel
  refine ⟨fun _ _ found => (nomatch found), fun other machine found _ => ?_⟩
  simpa using List.all_eq_true.1 only_one _ (Dict.get?_eq_some_iff.1 found)

/-- The machine did not name its server when the first pass was given up, and the second pass found
it nevertheless. -/
theorem claimed_once_and_adopted_resumed : ∃ front back,
    Unserved (Laboratory.key "a") ⟨modest, []⟩ ∧ modest.Unmistaken (Laboratory.key "a") ∧
      Fleet.Orderly (Tolerates (Laboratory.key "a")) ⟨modest, []⟩ front interrupted ∧
        interrupted.store.Holds (Laboratory.key "a") "s" ∧
          interrupted.store.reference? (Laboratory.key "a") = none ∧
            (interrupted.launch [.machine (Laboratory.key "a")]).Orderly
              (Tolerates (Laboratory.key "a")) back resumed ∧
              ∃ reference, resumed.store.reference? (Laboratory.key "a") = some reference ∧
                reference.name = "s" := by
  obtain ⟨front, reached⟩ := Fleet.pursue_orderly (Tolerates (Laboratory.key "a")) ⟨modest, []⟩
    (.machine (Laboratory.key "a")) 9
  obtain ⟨back, orderly⟩ := interrupted.play_launch_orderly (Tolerates (Laboratory.key "a"))
    (.machine (Laboratory.key "a")) 20
  have holds : interrupted.store.Holds (Laboratory.key "a") "s" := by decide +kernel
  have ends : (resumed.passes[interrupted.passes.length]?.bind Running.outcome?) =
      some (.requeue .bindingNotReady) := by decide +kernel
  have current : resumed.Current interrupted.passes.length :=
    (Fleet.current_congr (Fleet.play_subjects _ _)).2 (interrupted.current_launch _)
  obtain ⟨⟨subject, rest⟩, found, ended⟩ := Option.bind_eq_some_iff.1 ends
  obtain rfl : rest = .done _ := Running.rest_eq_of_outcome? ended
  have subjects_eq : resumed.subjects =
      (interrupted.launch [.machine (Laboratory.key "a")]).subjects := Fleet.play_subjects _ _
  have subject_at := Fleet.subjects_at found
  rw [subjects_eq, Fleet.subjects_launch_self] at subject_at
  obtain rfl : Subject.machine (Laboratory.key "a") = subject := Option.some.inj subject_at
  obtain ⟨_, adopts⟩ := claimed_once_and_adopted modest_unserved modest_unmistaken reached
  refine ⟨front, back, modest_unserved, modest_unmistaken, reached, holds, by decide +kernel,
    orderly, ?_⟩
  rcases (adopts "s" holds back resumed orderly).2 _ found current with shut | ⟨_, refused⟩ | names
  · exact nomatch shut
  · exact nomatch refused
  · exact names

/-! ## Mistaken names -/

theorem Fleet.Orderly.claimed (orderly : first.Orderly (fun _ _ => False) acts last)
    (free : ¬first.store.Holds key name) (holds : last.store.Holds key name) :
    ∃ act ∈ acts, act.Claims name key :=
  (orderly.run.mono fun _ _ => False.elim).claimed free holds

/-- A machine without a name that claims in the name of another. -/
def impostor : MetalMachine where
  metadata := { (Laboratory.machine "" {}).metadata with name := none, generateName := some "a" }
  spec := { serverRef := some (.ofName "t") }

/-- A store with a machine that names a class and one that claims in its name. -/
def aliased : Store :=
  (((Laboratory.store ["s"]).addServer (Laboratory.server "t")).addMetalMachine
    (Laboratory.machine "a" { serverClassRef := some (.ofName "pool") })).addMetalMachine impostor

/-- A pass over the machine that names a class. -/
def aliasedServed : Fleet := Fleet.pursue ⟨aliased, []⟩ (.machine (Laboratory.key "a")) 20

/-- Then a pass over the other machine. -/
def aliasedTwice : Fleet := aliasedServed.pursue (.machine impostor.key) 20

/-- A store in which the machine that leaves has a binding that goes by the name of a free server
and lies under another. -/
def mislaid : Store :=
  (((Laboratory.store ["s"]).addMetalMachine leaving).addMetalMachine
    (Laboratory.machine "b" { serverClassRef := some (.ofName "pool") })).addServerBinding
    { claim leaving "s" none with metadata := { generateName := some "s" } }

/-- A pass over the machine that names a class is given up as soon as it claimed the server. -/
def mislaidServed : Fleet := Fleet.pursue ⟨mislaid, []⟩ (.machine (Laboratory.key "b")) 9

/-- A pass over the machine that leaves deletes the binding of that server. -/
def mislaidReleased : Fleet := mislaidServed.pursue (.machine (Laboratory.key "a")) 20

/-- The next pass over the machine that names a class claims the server anew. -/
def mislaidTwice : Fleet := mislaidReleased.pursue (.machine (Laboratory.key "b")) 9

theorem aliased_unserved : Unserved (Laboratory.key "a") ⟨aliased, []⟩ :=
  unserved_of_any ((((Laboratory.store_arises ["s"]).addServer _).addMetalMachine _).addMetalMachine
    _) (by decide +kernel) (by decide +kernel)

theorem mislaid_unserved : Unserved (Laboratory.key "b") ⟨mislaid, []⟩ :=
  unserved_of_any ((((Laboratory.store_arises ["s"]).addMetalMachine _).addMetalMachine
    _).addServerBinding _) (by decide +kernel) (by decide +kernel)

/-- With passes alone it happens that servers are claimed twice for a machine: by another machine
that goes by its name, and anew when the first server was deleted in place of another. -/
theorem claims_repeated :
    (∃ acts, Unserved (Laboratory.key "a") ⟨aliased, []⟩ ∧
      Fleet.Orderly (fun _ _ => False) ⟨aliased, []⟩ acts aliasedTwice ∧
        ¬ClaimedOnce (Laboratory.key "a") acts) ∧
      ∃ acts, Unserved (Laboratory.key "b") ⟨mislaid, []⟩ ∧
        Fleet.Orderly (fun _ _ => False) ⟨mislaid, []⟩ acts mislaidTwice ∧
          ¬ClaimedOnce (Laboratory.key "b") acts := by
  constructor
  · obtain ⟨front, served⟩ := Fleet.pursue_orderly (fun _ _ => False) ⟨aliased, []⟩
      (.machine (Laboratory.key "a")) 20
    obtain ⟨back, again⟩ := aliasedServed.pursue_orderly (fun _ _ => False)
      (.machine impostor.key) 20
    have claimed : ∃ act ∈ front, act.Claims "s" (Laboratory.key "a") :=
      served.claimed (by decide +kernel) (by decide +kernel)
    have claimed_again : ∃ act ∈ back, act.Claims "t" (Laboratory.key "a") :=
      again.claimed (by decide +kernel) (by decide +kernel)
    exact ⟨front ++ back, aliased_unserved, served.append again,
      not_claimedOnce_append claimed claimed_again⟩
  · obtain ⟨front, served⟩ := Fleet.pursue_orderly (fun _ _ => False) ⟨mislaid, []⟩
      (.machine (Laboratory.key "b")) 9
    obtain ⟨between, released⟩ := mislaidServed.pursue_orderly (fun _ _ => False)
      (.machine (Laboratory.key "a")) 20
    obtain ⟨back, again⟩ := mislaidReleased.pursue_orderly (fun _ _ => False)
      (.machine (Laboratory.key "b")) 9
    have claimed : ∃ act ∈ front, act.Claims "s" (Laboratory.key "b") :=
      served.claimed (by decide +kernel) (by decide +kernel)
    have claimed_again : ∃ act ∈ back, act.Claims "s" (Laboratory.key "b") :=
      again.claimed (by decide +kernel) (by decide +kernel)
    obtain ⟨act, member, claims⟩ := claimed_again
    exact ⟨front ++ (between ++ back), mislaid_unserved, served.append (released.append again),
      not_claimedOnce_append claimed ⟨act, List.mem_append_right _ member, claims⟩⟩

end BareMetal
