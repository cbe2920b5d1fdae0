import BareMetal.Pass.Run
import BareMetal.Proofs.Program.Secures

/-!
# Passes over a shared store

What a pass does to the store when other passes use the store between its calls.  The index, the
counters, the clock and the workload nodes may answer anything.
-/

namespace BareMetal

/-- How a query of a pass may be answered: a call by the store, and any other query in any way. -/
def PassQuery.Answered : (query : PassQuery) → Store → query.Answer → Store → Prop
  | .store call, before, reply, after => before.perform call = (reply, after)
  | _, before, _, after => after = before

/-- Whatever the surroundings answer, it is an answer that the store allows. -/
theorem Surroundings.answered (query : PassQuery) (world : Surroundings) :
    query.Answered world.store (Surroundings.answer query world).1
      (Surroundings.answer query world).2.store := by
  cases query <;> rfl

/-- A pass followed by another runs the second in the surroundings that the first leaves. -/
theorem Pass.run_bind {α β : Type} (first : Pass β) (rest : β → Pass α) (world : Surroundings) :
    (first >>= rest).run world = (rest (first.run world).1).run (first.run world).2 := by
  induction first generalizing world with
  | done value => rfl
  | ask query next ih =>
      exact ih (Surroundings.answer query world).1 (Surroundings.answer query world).2

namespace Pass

variable {α β : Type} {terms : Terms Store} {goal : α → Store → Prop}

/-- On these terms every call of a pass keeps the invariant and what others rely on, and its value
meets the goal. -/
abbrev Secures (terms : Terms Store) (goal : α → Store → Prop) (pass : Pass α) (store : Store) :
    Prop :=
  Program.Secures PassQuery.Answered terms goal pass store

theorem secures_pure {value : α} {store : Store} :
    (pure value : Pass α).Secures terms goal store ↔
      ∀ later, terms.invariant later → terms.rely store later → goal value later :=
  Iff.rfl

theorem secures_bind {first : Pass β} {rest : β → Pass α} {store : Store} :
    (first >>= rest).Secures terms goal store ↔
      first.Secures terms (fun value => (rest value).Secures terms goal) store :=
  Program.secures_bind

/-- A call is answered from the store as the others left it. -/
theorem secures_call_bind {call : StoreCall} {rest : call.Reply → Pass α} {store : Store} :
    (Pass.call call >>= rest).Secures terms goal store ↔
      ∀ now, terms.invariant now → terms.rely store now →
        terms.invariant (now.perform call).2 ∧ terms.keeps now (now.perform call).2 ∧
          (rest (now.perform call).1).Secures terms goal (now.perform call).2 := by
  constructor
  · intro secures now sound acted
    exact secures now sound acted _ _ rfl
  · intro secures now sound acted reply after answered
    obtain rfl : reply = (now.perform call).1 := (congrArg Prod.fst answered).symm
    obtain rfl : after = (now.perform call).2 := (congrArg Prod.snd answered).symm
    exact secures now sound acted

/-- A look-up gives what the store holds as the others left it, and changes nothing. -/
theorem secures_get_bind {call : StoreCall} {what : String}
    {look : Store → Option call.Result} {rest : call.Reply → Pass α} {store : Store}
    (reads : ∀ now : Store, now.perform call = (Store.found what (look now), now))
    (present : ∀ now, terms.invariant now → terms.rely store now → ∀ object,
      look now = some object → (rest (.ok object)).Secures terms goal now)
    (missing : ∀ now, terms.invariant now → terms.rely store now → look now = none →
      (rest (.error (.notFound what))).Secures terms goal now) :
    (Pass.call call >>= rest).Secures terms goal store := by
  refine secures_call_bind.2 fun now sound acted => ?_
  rw [reads now]
  refine ⟨sound, terms.keeps_refl now, ?_⟩
  cases found : look now with
  | some object => exact present now sound acted object found
  | none => exact missing now sound acted found

/-- A query that does not go to the store leaves the store to the others. -/
theorem secures_query_bind {query : PassQuery} {rest : query.Answer → Pass α} {store : Store}
    (elsewhere : ∀ now answer after, query.Answered now answer after → after = now)
    (secures : ∀ answer, (rest answer).Secures terms goal store) :
    (Program.query query >>= rest : Pass α).Secures terms goal store := by
  intro now sound acted answer after answered
  obtain rfl := elsewhere now answer after answered
  exact ⟨sound, terms.keeps_refl _, (secures answer).of_rely acted⟩

theorem secures_learn_bind {event : Index.Event} {rest : Unit → Pass α} {store : Store}
    (secures : (rest ()).Secures terms goal store) :
    (Pass.learn event >>= rest).Secures terms goal store :=
  secures_query_bind (fun _ _ _ answered => answered) fun _ => secures

theorem secures_count_bind {counter : Counter} {rest : Unit → Pass α} {store : Store}
    (secures : (rest ()).Secures terms goal store) :
    (Pass.count counter >>= rest).Secures terms goal store :=
  secures_query_bind (fun _ _ _ answered => answered) fun _ => secures

theorem secures_now_bind {rest : Timestamp → Pass α} {store : Store}
    (secures : ∀ now, (rest now).Secures terms goal store) :
    (Pass.now >>= rest).Secures terms goal store :=
  secures_query_bind (fun _ _ _ answered => answered) secures

theorem secures_stampNode_bind {cluster : ObjectKey} {uuid providerId : String}
    {rest : Except StoreError Unit → Pass α} {store : Store}
    (secures : ∀ reply, (rest reply).Secures terms goal store) :
    (Pass.stampNode cluster uuid providerId >>= rest).Secures terms goal store :=
  secures_query_bind (fun _ _ _ answered => answered) secures

theorem secures_bindingsFor_bind {machine : ObjectKey} {rest : List String → Pass α}
    {store : Store} (secures : ∀ names, (rest names).Secures terms goal store) :
    (Pass.bindingsFor machine >>= rest).Secures terms goal store :=
  secures_query_bind (fun _ _ _ answered => answered) secures

theorem secures_machinesFor_bind {server : String} {rest : List ObjectKey → Pass α}
    {store : Store} (secures : ∀ keys, (rest keys).Secures terms goal store) :
    (Pass.machinesFor server >>= rest).Secures terms goal store :=
  secures_query_bind (fun _ _ _ answered => answered) secures

/-- What a pass secures holds when it was run to its end with nothing else happening meanwhile. -/
theorem Secures.run {pass : Pass α} {world : Surroundings}
    (secures : pass.Secures terms goal world.store) (sound : terms.invariant world.store) :
    goal (pass.run world).1 (pass.run world).2.store := by
  induction pass generalizing world with
  | done value => exact secures world.store sound (terms.rely_refl _)
  | ask query next ih =>
      obtain ⟨sound_after, _, secures_next⟩ := secures world.store sound (terms.rely_refl _) _ _
        (Surroundings.answered query world)
      exact ih (Surroundings.answer query world).1 secures_next sound_after

end Pass

namespace Attempt

variable {α β : Type} {terms : Terms Store} {goal : Except PassError α → Store → Prop}

/-- What a pass that may fail secures of its result. -/
abbrev Secures (terms : Terms Store) (goal : Except PassError α → Store → Prop)
    (attempt : Attempt α) (store : Store) : Prop :=
  Pass.Secures terms goal attempt.run store

/-- What is left to secure after a first part that may fail. -/
def Rest (terms : Terms Store) (goal : Except PassError α → Store → Prop)
    (rest : β → Attempt α) : Except PassError β → Store → Prop
  | .ok value => (rest value).Secures terms goal
  | .error error => goal (.error error)

theorem secures_pure {value : α} {store : Store} :
    (pure value : Attempt α).Secures terms goal store ↔
      ∀ later, terms.invariant later → terms.rely store later → goal (.ok value) later :=
  Iff.rfl

theorem secures_throw {error : PassError} {store : Store} :
    (throw error : Attempt α).Secures terms goal store ↔
      ∀ later, terms.invariant later → terms.rely store later → goal (.error error) later :=
  Iff.rfl

/-- An attempt followed by another ends early when the first fails. -/
theorem secures_bind {first : Attempt β} {rest : β → Attempt α} {store : Store}
    (secures : first.Secures terms (Rest terms goal rest) store) :
    (first >>= rest).Secures terms goal store := by
  refine Pass.secures_bind.2 (secures.always.weaken ?_)
  intro result later sound secured
  cases result with
  | ok value => exact secured later sound (terms.rely_refl later)
  | error error => exact secured

theorem secures_call_bind {call : StoreCall} {rest : call.Reply → Attempt α} {store : Store} :
    ((Pass.call call : Attempt call.Reply) >>= rest).Secures terms goal store ↔
      ∀ now, terms.invariant now → terms.rely store now →
        terms.invariant (now.perform call).2 ∧ terms.keeps now (now.perform call).2 ∧
          (rest (now.perform call).1).Secures terms goal (now.perform call).2 :=
  Pass.secures_call_bind

theorem secures_get_bind {call : StoreCall} {what : String}
    {look : Store → Option call.Result} {rest : call.Reply → Attempt α} {store : Store}
    (reads : ∀ now : Store, now.perform call = (Store.found what (look now), now))
    (present : ∀ now, terms.invariant now → terms.rely store now → ∀ object,
      look now = some object → (rest (.ok object)).Secures terms goal now)
    (missing : ∀ now, terms.invariant now → terms.rely store now → look now = none →
      (rest (.error (.notFound what))).Secures terms goal now) :
    ((Pass.call call : Attempt call.Reply) >>= rest).Secures terms goal store :=
  Pass.secures_get_bind reads present missing

theorem secures_learn_bind {event : Index.Event} {rest : Unit → Attempt α} {store : Store}
    (secures : (rest ()).Secures terms goal store) :
    ((Pass.learn event : Attempt Unit) >>= rest).Secures terms goal store :=
  Pass.secures_learn_bind secures

theorem secures_learnAll_bind {events : List Index.Event} {rest : Unit → Attempt α}
    {store : Store} (secures : (rest ()).Secures terms goal store) :
    ((Pass.learnAll events : Attempt Unit) >>= rest).Secures terms goal store := by
  induction events with
  | nil => exact secures
  | cons event events ih => exact secures_learn_bind ih

theorem secures_count_bind {counter : Counter} {rest : Unit → Attempt α} {store : Store}
    (secures : (rest ()).Secures terms goal store) :
    ((Pass.count counter : Attempt Unit) >>= rest).Secures terms goal store :=
  Pass.secures_count_bind secures

theorem secures_bindingsFor_bind {machine : ObjectKey} {rest : List String → Attempt α}
    {store : Store} (secures : ∀ names, (rest names).Secures terms goal store) :
    ((Pass.bindingsFor machine : Attempt (List String)) >>= rest).Secures terms goal store :=
  Pass.secures_bindingsFor_bind secures

theorem secures_machinesFor_bind {server : String} {rest : List ObjectKey → Attempt α}
    {store : Store} (secures : ∀ keys, (rest keys).Secures terms goal store) :
    ((Pass.machinesFor server : Attempt (List ObjectKey)) >>= rest).Secures terms goal store :=
  Pass.secures_machinesFor_bind secures

/-- A call whose failure fails the whole attempt. -/
theorem secures_attemptCall_bind {call : StoreCall} {rest : call.Result → Attempt α}
    {store : Store}
    (secures : ∀ now, terms.invariant now → terms.rely store now →
      terms.invariant (now.perform call).2 ∧ terms.keeps now (now.perform call).2 ∧
        (∀ result, (now.perform call).1 = .ok result →
          (rest result).Secures terms goal (now.perform call).2) ∧
        ∀ error, (now.perform call).1 = .error error →
          (throw (.store error) : Attempt α).Secures terms goal (now.perform call).2) :
    (Attempt.call call >>= rest).Secures terms goal store := by
  unfold Attempt.call
  rw [bind_assoc]
  refine secures_call_bind.2 fun now sound acted => ?_
  obtain ⟨sound_after, keeps, succeeds, fails⟩ := secures now sound acted
  refine ⟨sound_after, keeps, ?_⟩
  cases reply : (now.perform call).1 with
  | ok result => exact succeeds result reply
  | error error => exact fails error reply

end Attempt

end BareMetal
