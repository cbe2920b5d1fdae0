import BareMetal.Proofs.Claim.Evolution
import BareMetal.Proofs.Fleet
import BareMetal.Proofs.Pass.Warrant

/-!
# What the passes of a fleet were told

Each answer tells a pass something that was so at that moment.  Every pass of a fleet keeps to the
rule for its object with what it was told in the course of the run.
-/

namespace BareMetal

open Store

variable {Outside : Store → Store → Prop} {permits : Subject → Hearsay → PassQuery → Prop}
  {first before after : Fleet} {acts : List Act} {act : Act} {pass : Nat}

/-- What an act tells the pass of an index. -/
def Act.toldTo (pass : Nat) : Act → Option (Told PassQuery PassQuery.Answer)
  | .answer other query reply => if other = pass then some ⟨query, reply⟩ else none
  | .start _ | .outside => none

/-- All that the pass of an index was told. -/
def toldTo (pass : Nat) (acts : List Act) : Hearsay := acts.filterMap (Act.toldTo pass)

theorem toldTo_append_singleton :
    toldTo pass (acts ++ [act]) = toldTo pass acts ++ (act.toldTo pass).toList := by
  rw [toldTo, List.filterMap_append, List.filterMap_cons]
  cases act.toldTo pass <;> rfl

/-- What a pass was told an act told it. -/
theorem exists_act_of_mem_toldTo {told : Told PassQuery PassQuery.Answer}
    (member : told ∈ toldTo pass acts) :
    ∃ front act back, acts = front ++ act :: back ∧ act.toldTo pass = some told := by
  obtain ⟨act, among, tells⟩ := List.mem_filterMap.1 member
  obtain ⟨front, back, splits⟩ := List.append_of_mem among
  exact ⟨front, act, back, splits, tells⟩

theorem Act.eq_of_toldTo {told : Told PassQuery PassQuery.Answer}
    (tells : act.toldTo pass = some told) : act = .answer pass told.query told.answer := by
  cases act with
  | start | outside => exact nomatch tells
  | answer asker query answer =>
      rw [toldTo] at tells
      split at tells
      · rename_i same
        cases tells
        rw [same]
      · exact nomatch tells

theorem Fleet.Step.answered {query : PassQuery} {answer : query.Answer}
    (step : before.Step Outside (.answer pass query answer) after) :
    query.Answered before.store answer after.store := by
  cases step with
  | answer at_query answered => exact answered

/-- What an act told a pass was answered from the store as it was. -/
theorem Fleet.Step.answered_of_toldTo {told : Told PassQuery PassQuery.Answer}
    (step : before.Step Outside act after) (tells : act.toldTo pass = some told) :
    told.query.Answered before.store told.answer after.store := by
  obtain rfl := Act.eq_of_toldTo tells
  exact step.answered

/-- A pass was told that a server is held by a machine in a store where this was so. -/
theorem ShowsHeld.holds {machine : ObjectKey} {name : String} {store after : Store}
    {query : PassQuery} {answer : query.Answer} (shows : ShowsHeld machine name ⟨query, answer⟩)
    (answered : query.Answered store answer after) (kept : store.WellKept)
    (named : ∀ name binding, store.serverBindings.get? name = some binding →
      binding.metadata.name.isSome = true) :
    store.Holds machine name ∧ after = store := by
  have anyName_eq : ∀ {looked : String} {binding : ServerBinding},
      store.serverBindings.get? looked = some binding → binding.anyName = looked := by
    intro looked binding found
    obtain ⟨own, own_name⟩ := Option.isSome_iff_exists.1 (named looked binding found)
    have under := kept.binding_name looked binding found
    simpa [ServerBinding.anyName, Metadata.anyName, own_name] using under
  have same : after = store := by
    cases shows <;> exact (congrArg Prod.snd answered).symm
  refine ⟨?_, same⟩
  cases shows with
  | @found binding held =>
      exact ⟨binding, eq_some_of_found (congrArg Prod.fst answered), held⟩
  | @checked looked binding held binding_names =>
      have found := eq_some_of_found (congrArg Prod.fst answered)
      have same_name := (anyName_eq found).symm.trans binding_names
      subst same_name
      exact ⟨binding, found, held⟩
  | @listed bindings binding member held binding_names =>
      have listed : store.serverBindings.values = bindings :=
        Except.ok.inj (congrArg Prod.fst answered)
      subst listed
      obtain ⟨looked, found⟩ := Dict.mem_values.1 member
      have same_name := (anyName_eq found).symm.trans binding_names
      subst same_name
      exact ⟨binding, found, held⟩

/-! ## Rules for the passes of a fleet -/

/-- All passes of a fleet keep to the rules for their objects. -/
def Fleet.Heeding (permits : Subject → Hearsay → PassQuery → Prop) (acts : List Act)
    (fleet : Fleet) : Prop :=
  ∀ (pass : Nat) (running : Running), fleet.passes[pass]? = some running →
    running.rest.Heeds (permits running.subject) (fun _ _ => True) (toldTo pass acts)

theorem Fleet.heeding_nil (no_pass : first.passes = []) : first.Heeding permits acts := by
  intro pass running found
  rw [no_pass] at found
  exact nomatch found

theorem Fleet.Heeding.permitted (heeding : before.Heeding permits acts) {query : PassQuery}
    {answer : query.Answer} (step : before.Step Outside (.answer pass query answer) after) :
    ∃ subject, before.subjects[pass]? = some subject ∧
      permits subject (toldTo pass acts) query := by
  cases step with
  | @answer _ subject _ next _ _ at_query _ =>
      exact ⟨subject, subjects_at at_query, (heeding pass _ at_query).1⟩

/-- Passes go on keeping to their rules. -/
theorem Fleet.Heeding.step (heeding : before.Heeding permits acts)
    (starts : ∀ (subject : Subject) told,
      subject.pass.Heeds (permits subject) (fun _ _ => True) told)
    (step : before.Step Outside act after) : after.Heeding permits (acts ++ [act]) := by
  intro pass running found
  rw [toldTo_append_singleton]
  cases step with
  | start subject =>
      rw [Act.toldTo, Option.toList_none, List.append_nil]
      rw [List.getElem?_append] at found
      split at found
      · exact heeding pass running found
      · cases List.mem_singleton.1 (List.mem_of_getElem? found)
        exact starts subject _
  | outside change =>
      rw [Act.toldTo, Option.toList_none, List.append_nil]
      exact heeding pass running found
  | @answer asker subject query next answer store at_query answered =>
      rw [Act.toldTo]
      by_cases same : asker = pass
      · subst same
        have within : asker < before.passes.length := (List.getElem?_eq_some_iff.1 at_query).1
        rw [List.getElem?_set_self within] at found
        cases found
        rw [if_pos rfl]
        exact (heeding asker _ at_query).2 answer
      · rw [List.getElem?_set_ne same] at found
        rw [if_neg same, Option.toList_none, List.append_nil]
        exact heeding pass running found

/-- What a pass over an object may write after what it was told. -/
def Subject.Warrants : Subject → Hearsay → PassQuery → Prop
  | .machine key => Warranted key
  | .server name => Mending name
  | .binding _ | .serverClass _ => fun _ query => query.IsPassive

/-- What a pass writes is warranted by what it was told. -/
theorem Subject.pass_warranted (subject : Subject) (told : Hearsay) :
    subject.pass.Heeds subject.Warrants (fun _ _ => True) told := by
  cases subject with
  | machine key => exact machinePass_warranted key told
  | server name => exact serverPass_mending name told
  | binding name =>
      exact Pass.IsPassive.heeds (bindingPass_passive name) (fun _ _ passive => passive) told
  | serverClass name =>
      exact Pass.IsPassive.heeds (classPass_passive name) (fun _ _ passive => passive) told

end BareMetal
