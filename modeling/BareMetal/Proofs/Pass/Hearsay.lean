import BareMetal.Proofs.Pass.Passive
import BareMetal.Proofs.Pass.Secures

/-!
# What a pass was told

A pass knows of the store only what it was told.  A rule says what a pass may ask after what it
was told before; what was told was so when it was told.
-/

namespace BareMetal

/-- All that a pass was told, the earliest first. -/
abbrev Hearsay := List (Told PassQuery PassQuery.Answer)

variable {α β : Type} {permits : Hearsay → PassQuery → Prop} {told : Hearsay}

/-! ## Rules -/

theorem Pass.heeds_call_bind {call : StoreCall} {rest : call.Reply → Pass α}
    {goal : α → Hearsay → Prop} (permitted : permits told (.store call))
    (heeds : ∀ reply, (rest reply).Heeds permits goal (told ++ [⟨.store call, reply⟩])) :
    (Pass.call call >>= rest).Heeds permits goal told :=
  ⟨permitted, heeds⟩

namespace Attempt

/-- What is permitted to a pass that may fail, with all that it is told. -/
abbrev Heeds (permits : Hearsay → PassQuery → Prop) (goal : Except PassError α → Hearsay → Prop)
    (attempt : Attempt α) (told : Hearsay) : Prop :=
  Program.Heeds permits goal attempt.run told

theorem heeds_bind {first : Attempt β} {rest : β → Attempt α}
    {reached : β → Hearsay → Prop} {goal : Except PassError α → Hearsay → Prop}
    (heeds : first.Heeds permits (fun result later => ∀ value, result = .ok value →
      reached value later) told)
    (heeds_rest : ∀ value later, told <+: later → reached value later →
      (rest value).Heeds permits goal later)
    (fails : ∀ error later, goal (.error error) later) :
    (first >>= rest).Heeds permits goal told := by
  refine Program.heeds_bind.2 (heeds.weaken fun result later grows reached => ?_)
  cases result with
  | ok value => exact heeds_rest value later grows (reached value rfl)
  | error error => exact fails error later

theorem heeds_call_bind {call : StoreCall} {rest : call.Reply → Attempt α}
    {goal : Except PassError α → Hearsay → Prop} (permitted : permits told (.store call))
    (heeds : ∀ reply, (rest reply).Heeds permits goal (told ++ [⟨.store call, reply⟩])) :
    ((Pass.call call : Attempt call.Reply) >>= rest).Heeds permits goal told :=
  ⟨permitted, heeds⟩

theorem heeds_attemptCall_bind {call : StoreCall} {rest : call.Result → Attempt α}
    {goal : Except PassError α → Hearsay → Prop} (permitted : permits told (.store call))
    (heeds : ∀ result, (rest result).Heeds permits goal (told ++ [⟨.store call, .ok result⟩]))
    (fails : ∀ error later, goal (.error error) later) :
    (Attempt.call call >>= rest).Heeds permits goal told := by
  unfold Attempt.call
  rw [bind_assoc]
  refine heeds_call_bind permitted fun reply => ?_
  cases reply with
  | ok result => exact heeds result
  | error error => exact fails (.store error) _

theorem heeds_learnAll_bind {events : List Index.Event} {rest : Unit → Attempt α}
    {goal : Except PassError α → Hearsay → Prop}
    (learns : ∀ told event, permits told (.learn event))
    (heeds : ∀ later, told <+: later → (rest ()).Heeds permits goal later) :
    ((Pass.learnAll events : Attempt Unit) >>= rest).Heeds permits goal told := by
  induction events generalizing told with
  | nil => exact heeds told List.prefix_rfl
  | cons event events ih =>
      refine ⟨learns told event, fun _ => ih fun later grows => heeds later ?_⟩
      exact (List.prefix_append told _).trans grows

end Attempt

/-- A passive part of a pass heeds every rule that permits what is passive. -/
theorem Pass.IsPassive.heeds {pass : Pass α} (passive : pass.IsPassive)
    (reads : ∀ told query, query.IsPassive → permits told query) (told : Hearsay) :
    pass.Heeds permits (fun _ _ => True) told :=
  Program.AsksOnly.heeds passive reads told

/-- What a pass does that heeds a rule is sound if each step that the rule permits is. -/
theorem Pass.run_of_heeds {Sound : Hearsay → Store → Prop} {goal : α → Hearsay → Prop}
    (step : ∀ told (query : PassQuery) now answer after, permits told query →
      query.Answered now answer after → Sound told now → Sound (told ++ [⟨query, answer⟩]) after)
    {pass : Pass α} {world : Surroundings} (heeds : pass.Heeds permits goal told)
    (sound : Sound told world.store) :
    ∃ later, goal (pass.run world).1 later ∧ Sound later (pass.run world).2.store := by
  induction pass generalizing told world with
  | done value => exact ⟨told, heeds, sound⟩
  | ask query next ih =>
      have answered := Surroundings.answered query world
      have sound_after := step told query _ _ _ heeds.1 answered sound
      exact ih (Surroundings.answer query world).1 (heeds.2 _) sound_after

/-! ## Holders of servers -/

/-- An answer that shows a server to be held by a machine. -/
inductive ShowsHeld (machine : ObjectKey) (name : String) :
    Told PassQuery PassQuery.Answer → Prop
  /-- The binding of the server was looked up. -/
  | found {binding : ServerBinding} (held : binding.isHeldBy machine = true) :
      ShowsHeld machine name ⟨.store (.getServerBinding name), .ok binding⟩
  /-- A binding was looked up that names the server. -/
  | checked {looked : String} {binding : ServerBinding} (held : binding.isHeldBy machine = true)
      (named : binding.anyName = name) :
      ShowsHeld machine name ⟨.store (.getServerBinding looked), .ok binding⟩
  /-- A binding was listed that names the server. -/
  | listed {bindings : List ServerBinding} {binding : ServerBinding} (member : binding ∈ bindings)
      (held : binding.isHeldBy machine = true) (named : binding.anyName = name) :
      ShowsHeld machine name ⟨.store .listServerBindings, .ok bindings⟩

/-- An answer that shows a machine to hold no server. -/
inductive ShowsNone (machine : ObjectKey) : Told PassQuery PassQuery.Answer → Prop
  /-- All bindings were listed, and none was held by the machine. -/
  | listed {bindings : List ServerBinding} (none_held : bindingsOf machine bindings = []) :
      ShowsNone machine ⟨.store .listServerBindings, .ok bindings⟩

/-- A pass was told something that shows a server to be held by a machine. -/
def Hearsay.Shows (told : Hearsay) (machine : ObjectKey) (name : String) : Prop :=
  ∃ shown ∈ told, ShowsHeld machine name shown

theorem Hearsay.Shows.of_grows {told later : Hearsay} {machine : ObjectKey} {name : String}
    (shows : told.Shows machine name) (grows : told <+: later) : later.Shows machine name := by
  obtain ⟨shown, member, held⟩ := shows
  exact ⟨shown, grows.subset member, held⟩

section

variable {machine : ObjectKey}

/-- What was found by an attempt was shown to be held by a machine. -/
def FoundHeld (machine : ObjectKey) (result : Except PassError (List ServerBinding))
    (later : Hearsay) : Prop :=
  ∀ found, result = .ok found → ∀ binding ∈ found, later.Shows machine binding.anyName

/-- If nothing was found by an attempt, a machine was shown to hold no server. -/
def FoundNone (machine : ObjectKey) (result : Except PassError (List ServerBinding))
    (later : Hearsay) : Prop :=
  result = .ok [] → ∃ shown ∈ later, ShowsNone machine shown

variable (reads : ∀ told query, query.IsPassive → permits told query)

include reads

theorem checkBindings_heeds (names : List String) :
    (checkBindings machine names).Heeds permits (FoundHeld machine) told := by
  induction names generalizing told with
  | nil =>
      rintro _ ⟨⟩ binding member
      exact nomatch member
  | cons name rest ih =>
      unfold checkBindings
      refine Attempt.heeds_call_bind (reads _ _ trivial) fun reply => ?_
      split
      · rename_i binding
        refine Attempt.heeds_bind ih (fun others later grows shown => ?_)
          fun _ _ _ failed => nomatch failed
        rintro _ ⟨⟩ other member
        split at member
        · rename_i held
          rcases List.mem_cons.1 member with rfl | member
          · exact ⟨_, grows.subset (List.mem_append_right _ List.mem_cons_self), .checked held rfl⟩
          · exact shown other member
        · exact shown other member
      · exact ⟨reads _ _ trivial, fun _ => ih⟩
      · exact fun _ failed => nomatch failed

theorem listBindings_heeds : (listBindings machine).Heeds permits
    (fun result later => FoundHeld machine result later ∧ FoundNone machine result later)
    told := by
  refine Attempt.heeds_attemptCall_bind (reads _ _ trivial) (fun bindings => ?_)
    fun _ _ => ⟨fun _ failed => (nomatch failed), fun failed => nomatch failed⟩
  refine Attempt.heeds_learnAll_bind (fun _ _ => reads _ _ trivial) fun later grows => ?_
  have listed := grows.subset (List.mem_append_right told List.mem_cons_self)
  constructor
  · rintro _ ⟨⟩ binding member
    obtain ⟨among, held⟩ := List.mem_filter.1 member
    exact ⟨_, listed, .listed among held rfl⟩
  · exact fun none_found => ⟨_, listed, .listed (Except.ok.inj none_found)⟩

/-- The bindings that a machine is found to hold were shown to be held by it; if there are none, it
was shown to hold none. -/
theorem heldBindings_heeds : (heldBindings machine).Heeds permits
    (fun result later => FoundHeld machine result later ∧ FoundNone machine result later)
    told := by
  refine ⟨reads _ _ trivial, fun names => ?_⟩
  have fails : ∀ (error : PassError) (later : Hearsay), FoundHeld machine (.error error) later ∧
      FoundNone machine (.error error) later :=
    fun _ _ => ⟨fun _ failed => (nomatch failed), fun failed => nomatch failed⟩
  refine Attempt.heeds_bind (checkBindings_heeds reads names)
    (fun known later _ known_shown => ?_) fails
  have sorts : ∀ (found : List ServerBinding) (last : Hearsay),
      FoundHeld machine (.ok found) last → FoundNone machine (.ok found) last →
        FoundHeld machine (.ok (found.mergeSort ServerBinding.inNameOrder)) last ∧
          FoundNone machine (.ok (found.mergeSort ServerBinding.inNameOrder)) last := by
    intro found last shown shown_none
    constructor
    · rintro _ ⟨⟩ binding member
      exact shown found rfl binding (List.mem_mergeSort.1 member)
    · intro none_found
      refine shown_none (congrArg Except.ok (List.eq_nil_of_length_eq_zero ?_))
      simpa using congrArg List.length (Except.ok.inj none_found)
  cases known with
  | nil =>
      have lists : (listBindings machine).Heeds permits (fun result last => ∀ found,
          result = .ok found → FoundHeld machine (.ok found) last ∧
            FoundNone machine (.ok found) last) later := by
        refine (listBindings_heeds reads).weaken ?_
        rintro _ last _ shown found rfl
        exact shown
      exact Attempt.heeds_bind lists
        (fun found last _ shown => sorts found last shown.1 shown.2) fails
  | cons binding others =>
      exact sorts (binding :: others) later (fun _ same => Except.ok.inj same ▸ known_shown) nofun

end

/-! ## What is told is so -/

/-- A look-up that found something found what is stored. -/
theorem Store.eq_some_of_found {γ : Type} {what : String} {stored : Option γ} {object : γ}
    (found : Store.found what stored = .ok object) : stored = some object := by
  cases stored with
  | none => exact nomatch found
  | some present => exact congrArg some (Except.ok.inj found)

end BareMetal
