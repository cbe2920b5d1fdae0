import BareMetal.Proofs.Hearing
import BareMetal.Proofs.Pass.Deletion

/-!
# Releases that are overtaken

A release looks who holds a server and then deletes the binding by the name of the server.  In
between others may act.  The deletion takes the server from another machine exactly if meanwhile
the binding was deleted already and the other machine claimed the server anew.
-/

namespace BareMetal

open Store

variable {name : String} {machine other : ObjectKey} {before after : Fleet} {act : Act}

/-! ## Acts on the binding of a name -/

/-- The binding of a name is deleted. -/
inductive Act.Deletes (name : String) : Act → Prop
  /-- A pass has it deleted. -/
  | delete (pass : Nat) (answer : PassQuery.Answer (.store (.deleteServerBinding name))) :
      Deletes name (.answer pass (.store (.deleteServerBinding name)) answer)

/-- A machine is given the server of a name. -/
inductive Act.Claims (name : String) (machine : ObjectKey) : Act → Prop
  /-- A pass has the binding created. -/
  | create (pass : Nat) {binding created : ServerBinding}
      (named : binding.metadata.name.getD "" = name) (held : binding.isHeldBy machine = true) :
      Claims name machine (.answer pass (.store (.createServerBinding binding)) (.ok created))

/-- What comes from outside while only passes touch bindings: anything else may change. -/
inductive Rearranges (before : Store) : Store → Prop
  /-- Neither bindings nor metal machines change. -/
  | elsewhere {after : Store} (leaves : LeavesClaims before after) : Rearranges before after
  /-- A metal machine is put in, marked for deletion or not, whether one is there or not. -/
  | machine (machine : MetalMachine) : Rearranges before (before.addMetalMachine machine)

theorem Rearranges.serverBindings {before after : Store} (rearranges : Rearranges before after) :
    after.serverBindings = before.serverBindings := by
  cases rearranges with
  | elsewhere leaves => exact leaves.serverBindings
  | machine machine => exact (before.addMetalMachine_claims machine).2.1

theorem Rearranges.wellKept {before after : Store} (rearranges : Rearranges before after)
    (kept : before.WellKept) : after.WellKept := by
  cases rearranges with
  | elsewhere leaves => exact kept.of_leavesClaims leaves
  | machine machine => exact kept.addMetalMachine machine

/-- An act changes who holds a server by deleting the binding and by claims, and not otherwise. -/
def Turns (name : String) (machine : ObjectKey) (before : Store) (act : Act) (after : Store) :
    Prop :=
  after.Holds machine name ↔
    (before.Holds machine name ∧ ¬act.Deletes name) ∨ act.Claims name machine

section

variable {store after : Store} {binding : ServerBinding} {pass : Nat}

/-- An act that neither deletes nor claims the binding leaves the server where it is. -/
theorem turns_of_holds_iff (same : after.Holds machine name ↔ store.Holds machine name)
    (no_deletion : ¬act.Deletes name) (no_claim : ¬act.Claims name machine) :
    Turns name machine store act after := by
  simp only [Turns, same, no_deletion, no_claim, not_false_eq_true, and_true, or_false]

theorem turns_of_serverBindings (same : after.serverBindings = store.serverBindings)
    (no_deletion : ¬act.Deletes name) (no_claim : ¬act.Claims name machine) :
    Turns name machine store act after :=
  turns_of_holds_iff (Store.holds_congr same) no_deletion no_claim

theorem turns_delete (deleted : String) :
    Turns name machine store (.answer pass (.store (.deleteServerBinding deleted)) (.ok ()))
      (store.perform (.deleteServerBinding deleted)).2 := by
  refine Store.holds_deleteServerBinding_iff.trans ⟨?_, ?_⟩
  · rintro ⟨holds, differs⟩
    refine .inl ⟨holds, ?_⟩
    rintro ⟨⟩
    exact differs rfl
  · rintro (⟨holds, kept⟩ | claims)
    · refine ⟨holds, ?_⟩
      rintro rfl
      exact kept (.delete pass _)
    · exact nomatch claims

theorem turns_creation {reply : Except StoreError ServerBinding}
    (creation : Creation store binding reply after) :
    Turns name machine store (.answer pass (.store (.createServerBinding binding)) reply)
      after := by
  cases creation with
  | refused | taken => exact turns_of_holds_iff .rfl nofun nofun
  | created free =>
      constructor
      · rintro ⟨present, found, held⟩
        rcases Dict.get?_insert_eq_some.1 found with ⟨rfl, rfl⟩ | ⟨_, found⟩
        · exact .inr (.create pass rfl held)
        · exact .inl ⟨⟨present, found, held⟩, nofun⟩
      · rintro (⟨⟨present, found, held⟩, _⟩ | claims)
        · have differs : name ≠ binding.metadata.name.getD "" := by
            rintro rfl
            exact nomatch free.symm.trans found
          exact ⟨present, (Dict.get?_insert_of_ne differs _ _).trans found, held⟩
        · cases claims with
          | create pass named held =>
              subst named
              exact ⟨_, Dict.get?_insert_self _ _ _, held⟩

theorem turns_statusChange {changed : String} {status : ServerBindingStatus}
    {reply : Except StoreError Unit}
    (change : BindingStatusChange store changed status reply after) :
    Turns name machine store
      (.answer pass (.store (.updateServerBindingStatus changed status)) reply) after := by
  refine turns_of_holds_iff ?_ nofun nofun
  cases change with
  | gone => exact .rfl
  | changed found => exact holds_withBinding_iff found status machine name

/-- An answer to a pass changes who holds a server by a deletion or a claim. -/
theorem turns_answered {query : PassQuery} {answer : query.Answer}
    (answered : query.Answered store answer after) :
    Turns name machine store (.answer pass query answer) after := by
  cases query with
  | store call =>
      obtain rfl : (store.perform call).1 = answer := congrArg Prod.fst answered
      obtain rfl : (store.perform call).2 = after := congrArg Prod.snd answered
      cases writes : writesBindings call with
      | false =>
          generalize (store.perform call).1 = reply
          refine turns_of_serverBindings (store.perform_serverBindings writes) ?_ ?_
          · rintro ⟨⟩
            exact nomatch writes
          · rintro ⟨⟩
            exact nomatch writes
      | true =>
          cases call with
          | deleteServerBinding deleted => exact turns_delete deleted
          | createServerBinding binding => exact turns_creation (store.creation binding)
          | updateServerBindingStatus changed status =>
              exact turns_statusChange (store.bindingStatusChange changed status)
          | _ => exact nomatch writes
  | _ => exact turns_of_serverBindings (congrArg serverBindings answered) nofun nofun

end

/-- Whatever happens, who holds a server changes by a deletion or a claim. -/
theorem Fleet.Step.turns (step : before.Step Rearranges act after) :
    Turns name machine before.store act after.store := by
  cases step with
  | start => exact turns_of_serverBindings rfl nofun nofun
  | answer _ answered => exact turns_answered answered
  | outside rearranges => exact turns_of_serverBindings rearranges.serverBindings nofun nofun

/-- A server that comes to be held in the course of a run was claimed. -/
theorem Fleet.Run.claimed {first last : Fleet} {acts : List Act}
    (run : first.Run Rearranges acts last) (free : ¬first.store.Holds machine name)
    (holds : last.store.Holds machine name) : ∃ act ∈ acts, act.Claims name machine := by
  induction run with
  | refl => exact absurd holds free
  | @step acts _ _ act _ step ih =>
      rcases step.turns.1 holds with ⟨held_before, _⟩ | claims
      · obtain ⟨earlier, member, claims⟩ := ih held_before
        exact ⟨earlier, List.mem_append_left _ member, claims⟩
      · exact ⟨act, List.mem_append_right _ List.mem_cons_self, claims⟩

/-- A server that is claimed was held by nobody. -/
theorem Fleet.Step.not_holds_of_claims {Outside : Store → Store → Prop}
    (step : before.Step Outside act after) (claims : act.Claims name other) :
    ¬before.store.Holds machine name := by
  cases claims with
  | @create pass binding created named held =>
      subst named
      rintro ⟨present, found, _⟩
      cases step with
      | answer at_query answered =>
          have creation := before.store.creation binding
          have reply : (before.store.createServerBinding binding).1 = .ok created :=
            congrArg Prod.fst answered
          rw [reply] at creation
          generalize (before.store.createServerBinding binding).2 = later at creation
          cases creation with
          | created free => exact nomatch free.symm.trans found

/-- A server that is claimed is held. -/
theorem Fleet.Step.holds_of_claims {Outside : Store → Store → Prop}
    (step : before.Step Outside act after) (claims : act.Claims name machine) :
    after.store.Holds machine name := by
  cases claims with
  | create pass named held =>
      cases step with
      | answer _ answered => exact (turns_answered answered).2 (.inr (.create pass named held))

/-! ## What passes were told -/

/-- What a pass over an object may ask after what it was told. -/
def Subject.Permits : Subject → Hearsay → PassQuery → Prop
  | .machine key => Permitted key
  | .binding _ | .server _ | .serverClass _ => fun _ query => query.Spares

theorem Subject.pass_heeds (subject : Subject) (told : Hearsay) :
    subject.pass.Heeds subject.Permits (fun _ _ => True) told := by
  have sparing : ∀ {pass : Pass (Except PassError Outcome)}, pass.Spares →
      pass.Heeds (fun _ query => query.Spares) (fun _ _ => True) told := fun spares =>
    Program.AsksOnly.heeds spares (fun _ _ spares => spares) told
  cases subject with
  | machine key => exact machinePass_heeds key told
  | binding name => exact sparing (bindingPass_passive name).spares
  | server name => exact sparing (serverPass_spares name)
  | serverClass name => exact sparing (classPass_passive name).spares

/-- A binding is created with a name, whichever pass does it. -/
theorem Subject.Permits.named {subject : Subject} {told : Hearsay} {binding : ServerBinding}
    (permits : subject.Permits told (.store (.createServerBinding binding))) :
    binding.metadata.name.isSome = true := by
  cases subject with
  | machine key =>
      cases permits with
      | spares spares => exact spares
  | _ => exact permits

/-- A fleet after some acts: its store is in order, and all passes heed what they were told. -/
structure Fleet.Heedful (acts : List Act) (fleet : Fleet) : Prop where
  /-- Everything lies under its name or key. -/
  kept : fleet.store.WellKept
  /-- Bindings have names. -/
  named : ∀ name binding, fleet.store.serverBindings.get? name = some binding →
    binding.metadata.name.isSome = true
  /-- Passes ask what they may. -/
  heeds : ∀ (pass : Nat) (running : Running), fleet.passes[pass]? = some running →
    running.rest.Heeds running.subject.Permits (fun _ _ => True) (toldTo pass acts)

/-- Bindings that a call leaves have names if those before had and a new one has. -/
theorem Store.perform_named {store : Store} {call : StoreCall}
    (named : ∀ name binding, store.serverBindings.get? name = some binding →
      binding.metadata.name.isSome = true)
    (creates_named : ∀ binding, call = .createServerBinding binding →
      binding.metadata.name.isSome = true) :
    ∀ name binding, (store.perform call).2.serverBindings.get? name = some binding →
      binding.metadata.name.isSome = true := by
  intro name present found
  rcases Store.perform_of_get? found with
    ⟨old, found_before, same_name, _⟩ | ⟨binding, created, _, same_name, _⟩
  · exact same_name ▸ named name old found_before
  · exact same_name ▸ creates_named binding created

theorem Fleet.Heedful.step {acts : List Act} (heedful : before.Heedful acts)
    (step : before.Step Rearranges act after) : after.Heedful (acts ++ [act]) := by
  have heeding : before.Heeding Subject.Permits acts := heedful.heeds
  have in_order : after.store.WellKept ∧ ∀ name binding,
      after.store.serverBindings.get? name = some binding →
        binding.metadata.name.isSome = true := by
    cases step with
    | start => exact ⟨heedful.kept, heedful.named⟩
    | outside rearranges =>
        exact ⟨rearranges.wellKept heedful.kept, fun name binding found =>
          heedful.named name binding (rearranges.serverBindings ▸ found)⟩
    | @answer asker subject query next answer store at_query answered =>
        cases query with
        | store call =>
            obtain rfl : (before.store.perform call).2 = store := congrArg Prod.snd answered
            refine ⟨heedful.kept.perform call, perform_named heedful.named ?_⟩
            rintro binding rfl
            exact (heedful.heeds asker _ at_query).1.named
        | _ =>
            obtain rfl : store = before.store := answered
            exact ⟨heedful.kept, heedful.named⟩
  exact ⟨in_order.1, in_order.2, heeding.step Subject.pass_heeds step⟩

theorem Fleet.Heedful.run {first last : Fleet} {acts : List Act} (heedful : first.Heedful [])
    (run : first.Run Rearranges acts last) : last.Heedful acts := by
  induction run with
  | refl => exact heedful
  | step _ step ih => exact ih.step step

/-! ## Checks and what happens after them -/

/-- A binding was deleted, and then a machine claimed the server and was left with it. -/
def Overtaken (name : String) (machine : ObjectKey) (acts : List Act) : Prop :=
  ∃ front claim back, acts = front ++ claim :: back ∧ (∃ deletion ∈ front, deletion.Deletes name) ∧
    claim.Claims name machine ∧ ∀ act ∈ back, ¬act.Deletes name

theorem overtaken_iff_since {acts : List Act} : Overtaken name machine acts ↔
    Since (fun front claim => (∃ deletion ∈ front, deletion.Deletes name) ∧
      claim.Claims name machine) (Act.Deletes name) acts := by
  simp only [Overtaken, Since, and_assoc]

theorem overtaken_append_singleton {acts : List Act} : Overtaken name machine (acts ++ [act]) ↔
    (Overtaken name machine acts ∧ ¬act.Deletes name) ∨
      ((∃ deletion ∈ acts, deletion.Deletes name) ∧ act.Claims name machine) := by
  simp only [overtaken_iff_since, since_append_singleton]

/-- Who holds a server after a run, if a machine held it before. -/
theorem Fleet.Run.holds_iff {first last : Fleet} {acts : List Act}
    (run : first.Run Rearranges acts last) {key : ObjectKey} (holds : first.store.Holds key name)
    (machine : ObjectKey) : last.store.Holds machine name ↔
      (machine = key ∧ ∀ act ∈ acts, ¬act.Deletes name) ∨ Overtaken name machine acts := by
  induction run generalizing machine with
  | refl =>
      constructor
      · exact fun holds_too => .inl ⟨holds_too.unique holds, by simp⟩
      · rintro (⟨rfl, _⟩ | ⟨front, claim, back, splits, _⟩)
        · exact holds
        · simp at splits
  | @step acts before after act _ step ih =>
      -- A claim succeeds only if the binding was deleted before.
      have deleted_of_claims : act.Claims name machine →
          ∃ deletion ∈ acts, deletion.Deletes name := by
        intro claims
        refine Classical.byContradiction fun none_deleted => ?_
        have holds_before := (ih key).2 (.inl ⟨rfl, fun act member deletes =>
          none_deleted ⟨act, member, deletes⟩⟩)
        exact step.not_holds_of_claims claims holds_before
      have all_kept : (∀ earlier ∈ acts ++ [act], ¬earlier.Deletes name) ↔
          (∀ earlier ∈ acts, ¬earlier.Deletes name) ∧ ¬act.Deletes name := by
        simp [or_imp, forall_and]
      refine Iff.trans step.turns ?_
      rw [ih machine, overtaken_append_singleton, all_kept]
      constructor
      · rintro (⟨⟨rfl, kept⟩ | overtaken, keeps⟩ | claims)
        · exact .inl ⟨rfl, kept, keeps⟩
        · exact .inr (.inl ⟨overtaken, keeps⟩)
        · exact .inr (.inr ⟨deleted_of_claims claims, claims⟩)
      · rintro (⟨rfl, kept, keeps⟩ | ⟨overtaken, keeps⟩ | ⟨_, claims⟩)
        · exact .inl ⟨.inl ⟨rfl, kept⟩, keeps⟩
        · exact .inl ⟨.inr overtaken, keeps⟩
        · exact .inr claims

/-! ## Releases -/

section

variable {first : Fleet} {acts : List Act} {pass : Nat} {key : ObjectKey}
  {rest : Pass (Except PassError Outcome)} {told : Told PassQuery PassQuery.Answer}

/-- A store on which passes are about to start: it came about by its operations, and its bindings
have names. -/
theorem Fleet.heedful_nil (arises : first.store.Arises)
    (named : ∀ name binding, first.store.serverBindings.get? name = some binding →
      binding.metadata.name.isSome = true) (no_pass : first.passes = []) :
    first.Heedful [] where
  kept := arises.wellKept
  named := named
  heeds pass running found := by
    rw [no_pass] at found
    exact nomatch found

/-- A pass reads a machine under its own key. -/
theorem Fleet.Heedful.key_of_read (heedful : first.Heedful [])
    (run : first.Run Rearranges acts before) {read : MetalMachine}
    (member : (⟨.store (.getMetalMachine key), .ok read⟩ : Told _ _) ∈ toldTo pass acts) :
    read.key = key := by
  obtain ⟨front, act, back, splits, tells⟩ := exists_act_of_mem_toldTo member
  obtain ⟨reached, left, reaches, step, _⟩ := run.split splits
  have found := eq_some_of_found (congrArg Prod.fst (step.answered_of_toldTo tells))
  exact (heedful.run reaches).kept.machine_key key read found

/-- A machine holds a server before a step and does not hold it after. -/
def Fleet.Loses (before after : Fleet) (machine : ObjectKey) (name : String) : Prop :=
  before.store.Holds machine name ∧ ¬after.store.Holds machine name

/-- A pass over a machine deletes a binding only after it saw that the machine held the server.  The
machine still holds it unless the binding was deleted since, and another machine loses the server
exactly if the release was overtaken: the binding was deleted since, and the other machine claimed
the server anew. -/
theorem release_loses_iff_overtaken {answer : PassQuery.Answer (.store (.deleteServerBinding name))}
    (arises : first.store.Arises)
    (named : ∀ name binding, first.store.serverBindings.get? name = some binding →
      binding.metadata.name.isSome = true) (no_pass : first.passes = [])
    (run : first.Run Rearranges acts before)
    (releasing : before.passes[pass]? = some ⟨.machine key, rest⟩)
    (deletes : before.Step Rearranges (.answer pass (.store (.deleteServerBinding name)) answer)
      after) :
    ∃ front check back reached told, acts = front ++ check :: back ∧
      first.Run Rearranges front reached ∧ check.toldTo pass = some told ∧
        ShowsHeld key name told ∧ reached.store.Holds key name ∧
          ((∀ act ∈ back, ¬act.Deletes name) → before.store.Holds key name) ∧
            ∀ other, other ≠ key →
              (before.Loses after other name ↔ Overtaken name other back) := by
  have heedful := Fleet.heedful_nil arises named no_pass
  have permitted : Permitted key (toldTo pass acts) (.store (.deleteServerBinding name)) := by
    cases deletes with
    | answer at_query _ =>
        obtain ⟨same_subject, _⟩ := Running.mk.inj (Option.some.inj (releasing.symm.trans at_query))
        subst same_subject
        exact ((heedful.run run).heeds pass _ at_query).1
  cases permitted with
  | spares spares => exact spares.elim
  | @deletes machine _ read shows =>
      obtain rfl : machine.key = key := heedful.key_of_read run read
      obtain ⟨told, member, shows_held⟩ := shows
      obtain ⟨front, check, back, splits, tells⟩ := exists_act_of_mem_toldTo member
      obtain ⟨reached, left, reaches, step, goes_on⟩ := run.split splits
      have reached_heedful := heedful.run reaches
      obtain ⟨holds, same⟩ := shows_held.holds (step.answered_of_toldTo tells)
        reached_heedful.kept reached_heedful.named
      have holds_after := fun other => goes_on.holds_iff (same ▸ holds) other
      refine ⟨front, check, back, reached, told, splits, reaches, tells, shows_held, holds, ?_, ?_⟩
      · exact fun kept => (holds_after _).2 (.inl ⟨rfl, kept⟩)
      · intro other differs
        have gone : ¬after.store.Holds other name := fun holds => by
          rcases deletes.turns.1 holds with ⟨_, kept⟩ | claims
          · exact kept (.delete pass answer)
          · exact nomatch claims
        have overtaken_iff : before.store.Holds other name ↔ Overtaken name other back :=
          (holds_after other).trans (or_iff_right fun same => differs same.1)
        exact (and_iff_left gone).trans overtaken_iff

end

/-! ## A release that is overtaken -/

/-- The name of the binding that a pass is about to delete. -/
def Running.deletes? : Running → Option String
  | ⟨_, .ask (.store (.deleteServerBinding name)) _⟩ => some name
  | _ => none

theorem Running.rest_eq_of_deletes? {running : Running} (deletes : running.deletes? = some name) :
    ∃ next, running.rest = .ask (.store (.deleteServerBinding name)) next := by
  unfold deletes? at deletes
  split at deletes
  · cases deletes
    exact ⟨_, rfl⟩
  · exact nomatch deletes

/-- A machine that is marked for deletion, but still held by its finalizer. -/
def leaving : MetalMachine :=
  let machine := Laboratory.machine "a" { serverClassRef := some (.ofName "pool") }
  { machine with
    metadata.deletionTimestamp := some Fleet.epoch
    metadata.finalizers := some [MetalMachine.finalizer] }

/-- A store in which the machine that leaves holds a server that another machine names. -/
def coveted : Store :=
  (((Laboratory.store ["s"]).addMetalMachine leaving).addMetalMachine
    (Laboratory.machine "b" { serverRef := some (.ofName "s") })).addServerBinding
    (claim leaving "s" none)

/-- Two passes over the machine that leaves see that it holds the server.  One of them deletes the
binding, and a pass over the other machine claims the server. -/
def overtaken : Fleet :=
  (Fleet.launch ⟨coveted, []⟩ [.machine (Laboratory.key "a"), .machine (Laboratory.key "a"),
    .machine (Laboratory.key "b")]).play
    (List.replicate 5 0 ++ List.replicate 6 1 ++ List.replicate 7 2)

theorem overtaken_run (Outside : Store → Store → Prop) :
    ∃ acts, (⟨coveted, []⟩ : Fleet).Run Outside acts overtaken := by
  obtain ⟨starts, launched⟩ := Fleet.launch_run Outside ⟨coveted, []⟩
    [.machine (Laboratory.key "a"), .machine (Laboratory.key "a"), .machine (Laboratory.key "b")]
  obtain ⟨answers, played⟩ := Fleet.play_run Outside (Fleet.launch ⟨coveted, []⟩
    [.machine (Laboratory.key "a"), .machine (Laboratory.key "a"), .machine (Laboratory.key "b")])
    (List.replicate 5 0 ++ List.replicate 6 1 ++ List.replicate 7 2)
  exact ⟨starts ++ answers, launched.append played⟩

theorem overtaken_deletes (Outside : Store → Store → Prop) : ∃ rest answer after,
    overtaken.passes[0]? = some ⟨.machine (Laboratory.key "a"), rest⟩ ∧
      overtaken.Step Outside (.answer 0 (.store (.deleteServerBinding "s")) answer) after ∧
        overtaken.Loses after (Laboratory.key "b") "s" := by
  have about_to : (overtaken.passes[0]?.bind Running.deletes?) = some "s" := by decide +kernel
  have looks_at : (overtaken.passes[0]?.map Running.subject) =
      some (.machine (Laboratory.key "a")) := by decide +kernel
  have holds : overtaken.store.Holds (Laboratory.key "b") "s" := by decide +kernel
  obtain ⟨⟨subject, rest⟩, found, deletes⟩ := Option.bind_eq_some_iff.1 about_to
  rw [found] at looks_at
  obtain rfl : subject = .machine (Laboratory.key "a") := Option.some.inj looks_at
  obtain ⟨next, rfl⟩ := Running.rest_eq_of_deletes? deletes
  exact ⟨_, _, _, found, .answer found rfl, holds,
    fun still => (Store.holds_deleteServerBinding_iff.1 still).2 rfl⟩

theorem coveted_arises : coveted.Arises :=
  (((Laboratory.store_arises ["s"]).addMetalMachine leaving).addMetalMachine
    (Laboratory.machine "b" { serverRef := some (.ofName "s") })).addServerBinding
    (claim leaving "s" none)

theorem coveted_named : ∀ name binding, coveted.serverBindings.get? name = some binding →
    binding.metadata.name.isSome = true := by
  have all_named : coveted.serverBindings.entries.all (fun entry =>
      entry.2.metadata.name.isSome) = true := by decide +kernel
  exact fun name binding found =>
    List.all_eq_true.1 all_named _ (Dict.get?_eq_some_iff.1 found)

/-- With passes alone it happens that a release takes a server from another machine. -/
theorem release_takes_from_other : ∃ acts rest answer after,
    (⟨coveted, []⟩ : Fleet).Run (fun _ _ => False) acts overtaken ∧
      overtaken.passes[0]? = some ⟨.machine (Laboratory.key "a"), rest⟩ ∧
        overtaken.Step (fun _ _ => False) (.answer 0 (.store (.deleteServerBinding "s")) answer)
          after ∧ overtaken.Loses after (Laboratory.key "b") "s" := by
  obtain ⟨acts, run⟩ := overtaken_run fun _ _ => False
  obtain ⟨rest, answer, after, releasing, deletes, loses⟩ := overtaken_deletes fun _ _ => False
  exact ⟨acts, rest, answer, after, run, releasing, deletes, loses⟩

/-- The machine that loses the server had claimed it after the other pass deleted the binding. -/
theorem release_loses_iff_overtaken_coveted : ∃ rest answer after front check back,
    overtaken.passes[0]? = some ⟨.machine (Laboratory.key "a"), rest⟩ ∧
      overtaken.Step Rearranges (.answer 0 (.store (.deleteServerBinding "s")) answer) after ∧
        (⟨coveted, []⟩ : Fleet).Run Rearranges (front ++ check :: back) overtaken ∧
          overtaken.Loses after (Laboratory.key "b") "s" ∧
            Overtaken "s" (Laboratory.key "b") back := by
  obtain ⟨acts, run⟩ := overtaken_run Rearranges
  obtain ⟨rest, answer, after, releasing, deletes, loses⟩ := overtaken_deletes Rearranges
  obtain ⟨front, check, back, _, _, rfl, _, _, _, _, _, loses_iff⟩ := release_loses_iff_overtaken
    coveted_arises coveted_named rfl run releasing deletes
  exact ⟨rest, answer, after, front, check, back, releasing, deletes, run, loses,
    (loses_iff _ (by decide)).1 loses⟩

end BareMetal
