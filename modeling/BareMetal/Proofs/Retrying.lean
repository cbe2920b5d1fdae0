import BareMetal.Allocator
import BareMetal.Proofs.Delays
import BareMetal.Watch.Task
import Mathlib.Data.List.DropRight

/-!
# Delays after failures

An allocator tries an object again after a failed pass, and waits the longer the more passes over
the object failed in a row.  The failures of all objects are kept in one dictionary under texts made
of kind, namespace and name.  Where these hold no slash no two objects share a text, so that each
object's delays grow by its own failures only.
-/

namespace BareMetal

/-! ## Names of objects -/

/-- Neither part of a key holds a slash. -/
structure ObjectKey.IsPlain (key : ObjectKey) : Prop where
  /-- The namespace holds none. -/
  space : '/' ∉ key.space.toList
  /-- The name holds none. -/
  name : '/' ∉ key.name.toList

instance (key : ObjectKey) : Decidable key.IsPlain :=
  decidable_of_iff ('/' ∉ key.space.toList ∧ '/' ∉ key.name.toList)
    ⟨fun ⟨space, name⟩ => ⟨space, name⟩, fun plain => ⟨plain.space, plain.name⟩⟩

theorem takeWhile_append_slash {front : List Char} (plain : '/' ∉ front) (back : List Char) :
    (front ++ '/' :: back).takeWhile (· != '/') = front := by
  induction front with
  | nil => simp
  | cons c rest ih =>
      simp only [List.mem_cons, not_or] at plain
      simp [Ne.symm plain.1, ih plain.2]

/-- A text with a slash tells what stands before the first one and what stands behind it. -/
theorem append_slash_inj {front front' back back' : List Char} (plain : '/' ∉ front)
    (plain' : '/' ∉ front') (same : front ++ '/' :: back = front' ++ '/' :: back') :
    front = front' ∧ back = back' := by
  have fronts : front = front' := by
    calc
      front = (front ++ '/' :: back).takeWhile (· != '/') :=
        (takeWhile_append_slash plain back).symm
      _ = (front' ++ '/' :: back').takeWhile (· != '/') := by rw [same]
      _ = front' := takeWhile_append_slash plain' back'
  subst fronts
  simpa using same

theorem ObjectKey.toList_display (key : ObjectKey) :
    key.display.toList =
      if key.space = "" then key.name.toList
      else key.space.toList ++ '/' :: key.name.toList := by
  simp only [display, String.isEmpty_iff]
  split <;> simp

/-- Different keys without slashes are displayed differently. -/
theorem ObjectKey.display_inj {key other : ObjectKey} (plain : key.IsPlain)
    (plain_other : other.IsPlain) (same : key.display = other.display) : key = other := by
  have texts := congrArg String.toList same
  rw [toList_display, toList_display] at texts
  have parts : key.space = other.space ∧ key.name = other.name := by
    by_cases whole : key.space = "" <;> by_cases whole_other : other.space = ""
    · simp_all [String.toList_inj]
    · rw [if_pos whole, if_neg whole_other] at texts
      have slash : '/' ∈ key.name.toList := by simp [texts]
      exact absurd slash plain.name
    · rw [if_neg whole, if_pos whole_other] at texts
      have slash : '/' ∈ other.name.toList := by simp [← texts]
      exact absurd slash plain_other.name
    · rw [if_neg whole, if_neg whole_other] at texts
      obtain ⟨spaces, names⟩ := append_slash_inj plain.space plain_other.space texts
      exact ⟨String.toList_inj.1 spaces, String.toList_inj.1 names⟩
  cases key
  cases other
  simp_all

theorem Collection.kind_name_plain (collection : Collection) :
    '/' ∉ collection.kind.name.toList := by
  cases collection <;> decide

theorem Collection.kind_name_inj {collection other : Collection}
    (same : collection.kind.name = other.kind.name) : collection = other := by
  cases collection <;> cases other <;> first | rfl | exact absurd same (by decide)

/-- Different objects are remembered under different texts. -/
theorem failureName_inj {collection other : Collection} {key other_key : ObjectKey}
    (plain : key.IsPlain) (plain_other : other_key.IsPlain)
    (same : failureName collection.kind key = failureName other.kind other_key) :
    collection = other ∧ key = other_key := by
  have texts := congrArg String.toList same
  simp only [failureName, String.toList_append, List.append_assoc] at texts
  obtain ⟨kinds, keys⟩ := append_slash_inj collection.kind_name_plain other.kind_name_plain texts
  exact ⟨Collection.kind_name_inj (String.toList_inj.1 kinds),
    ObjectKey.display_inj plain plain_other (String.toList_inj.1 keys)⟩

/-! ## Failures in a row -/

/-- The failures of an object that failed a number of times in a row. -/
def FailureRun.ofCount (count : Nat) : FailureRun where
  count := count
  backoff := .grown (.ofSeconds 5) (.ofSeconds 300) count

/-- The delay after the last of several failures in a row. -/
def retryDelay (count : Nat) : Span := .ofSeconds (min 300 (Nat.fib count * 5))

theorem multiple_eq_retryDelay (count : Nat) :
    Backoff.multiple (.ofSeconds 5) (.ofSeconds 300) count = retryDelay count := by
  apply Span.eq_of_nanos
  simp only [Backoff.multiple, retryDelay, Span.ofSeconds]
  omega

namespace Failures

variable {failures : Failures} {object other : String}

theorem ofCount_zero : FailureRun.ofCount 0 = ⟨0, Backoff.standard⟩ := by
  have fits : (Span.ofSeconds 5).nanos ≤ (Span.ofSeconds 300).nanos := by decide
  rw [FailureRun.ofCount, ← Backoff.start_eq_grown fits]
  rfl

theorem run_none (object : String) : none.run object = .ofCount 0 := by
  rw [ofCount_zero]
  rfl

/-- One more failure of an object gives it the next delay. -/
theorem fail_eq {count : Nat} (failed : failures.run object = .ofCount count) :
    failures.fail object =
      (retryDelay (count + 1), failures.insert object (.ofCount (count + 1))) := by
  have next : (FailureRun.ofCount count).backoff.next? =
      some (retryDelay (count + 1), (FailureRun.ofCount (count + 1)).backoff) := by
    rw [← multiple_eq_retryDelay]
    exact Backoff.next?_grown (by decide) count
  simp only [fail, failed, next]
  rfl

theorem run_insert_self (failures : Failures) (object : String) (run : FailureRun) :
    Failures.run (failures.insert object run) object = run := by
  simp [Failures.run]

theorem run_insert_of_ne (differs : object ≠ other) (run : FailureRun) :
    Failures.run (failures.insert other run) object = failures.run object := by
  simp [Failures.run, Dict.get?_insert_of_ne differs]

theorem run_succeed_self (failures : Failures) (object : String) :
    (failures.succeed object).run object = .ofCount 0 := by
  simp [Failures.run, succeed, ofCount_zero]

theorem run_succeed_of_ne (differs : object ≠ other) :
    (failures.succeed other).run object = failures.run object := by
  simp [Failures.run, succeed, Dict.get?_erase_of_ne differs]

theorem run_fail_of_ne (differs : object ≠ other) :
    (failures.fail other).2.run object = failures.run object := by
  unfold fail
  dsimp only
  split <;> exact run_insert_of_ne differs _

end Failures

/-! ## Passes that came to their ends -/

/-- A pass over an object that came to its end. -/
structure Conclusion where
  /-- The collection of the object. -/
  collection : Collection
  /-- The key of the object. -/
  key : ObjectKey
  /-- What the allocator had seen and counted by then. -/
  memory : Memory := {}
  /-- How the pass ended. -/
  result : Except PassError Outcome

namespace Conclusion

/-- Whether the pass was one over an object. -/
def isOver (conclusion : Conclusion) (collection : Collection) (key : ObjectKey) : Bool :=
  conclusion.collection = collection && conclusion.key = key

/-- Whether the pass failed. -/
def failed (conclusion : Conclusion) : Bool :=
  match conclusion.result with
  | .ok _ => false
  | .error _ => true

end Conclusion

/-- How many passes over an object failed since the last one that did not. -/
def failuresInARow (history : List Conclusion) (collection : Collection) (key : ObjectKey) : Nat :=
  ((history.filter (·.isOver collection key)).rtakeWhile Conclusion.failed).length

namespace Allocator

/-- An allocator notes how a pass ended. -/
def note (requeueAfter : Span) (allocator : Allocator) (conclusion : Conclusion) :
    Option Span × Allocator :=
  { allocator with memory := conclusion.memory }.conclude requeueAfter conclusion.collection.kind
    conclusion.key conclusion.result

/-- An allocator that remembered nothing before some passes ended. -/
def afterAll (requeueAfter : Span) (history : List Conclusion) : Allocator :=
  history.foldl (fun allocator conclusion => (allocator.note requeueAfter conclusion).2) {}

end Allocator

section

variable {requeueAfter : Span} {history : List Conclusion} {conclusion : Conclusion}
  {collection : Collection} {key : ObjectKey}

theorem failuresInARow_append_of_other (apart : conclusion.isOver collection key = false) :
    failuresInARow (history ++ [conclusion]) collection key =
      failuresInARow history collection key := by
  simp [failuresInARow, apart]

theorem failuresInARow_append_of_failed (own : conclusion.isOver collection key = true)
    (failed : conclusion.failed = true) :
    failuresInARow (history ++ [conclusion]) collection key =
      failuresInARow history collection key + 1 := by
  simp [failuresInARow, own, List.rtakeWhile_concat_pos _ _ _ failed]

theorem failuresInARow_append_of_succeeded (own : conclusion.isOver collection key = true)
    (succeeded : conclusion.failed = false) :
    failuresInARow (history ++ [conclusion]) collection key = 0 := by
  have stops : ¬conclusion.failed = true := by simp [succeeded]
  simp [failuresInARow, own, List.rtakeWhile_concat_neg _ _ _ stops]

namespace Allocator

theorem note_of_failed (allocator : Allocator) (failed : conclusion.failed = true) :
    (allocator.note requeueAfter conclusion).1 = some (allocator.failures.fail
        (failureName conclusion.collection.kind conclusion.key)).1 ∧
      (allocator.note requeueAfter conclusion).2.failures = (allocator.failures.fail
        (failureName conclusion.collection.kind conclusion.key)).2 := by
  obtain ⟨collection, key, memory, result⟩ := conclusion
  cases result with
  | ok outcome => simp [Conclusion.failed] at failed
  | error error => exact ⟨rfl, rfl⟩

theorem note_of_succeeded (allocator : Allocator) (succeeded : conclusion.failed = false) :
    (allocator.note requeueAfter conclusion).2.failures =
      allocator.failures.succeed (failureName conclusion.collection.kind conclusion.key) := by
  obtain ⟨collection, key, memory, result⟩ := conclusion
  cases result with
  | ok outcome => rfl
  | error error => simp [Conclusion.failed] at succeeded

@[simp] theorem afterAll_append_singleton (history : List Conclusion) (conclusion : Conclusion) :
    afterAll requeueAfter (history ++ [conclusion]) =
      ((afterAll requeueAfter history).note requeueAfter conclusion).2 := by
  simp [afterAll]

end Allocator

open Allocator

/-- What an allocator remembers of an object's failures is how many there were in a row. -/
theorem run_afterAll (plain : key.IsPlain)
    (plain_all : ∀ conclusion ∈ history, conclusion.key.IsPlain) :
    (afterAll requeueAfter history).failures.run (failureName collection.kind key) =
      .ofCount (failuresInARow history collection key) := by
  induction history using List.reverseRecOn with
  | nil => exact Failures.run_none _
  | append_singleton earlier conclusion ih =>
      simp only [List.mem_append, List.mem_singleton] at plain_all
      have remembered := ih fun conclusion member => plain_all conclusion (.inl member)
      have plain_last := plain_all conclusion (.inr rfl)
      rw [afterAll_append_singleton]
      cases own : conclusion.isOver collection key with
      | true =>
          obtain ⟨rfl, rfl⟩ : conclusion.collection = collection ∧ conclusion.key = key := by
            simpa [Conclusion.isOver] using own
          cases failed : conclusion.failed with
          | true =>
              rw [(note_of_failed _ failed).2, Failures.fail_eq remembered,
                Failures.run_insert_self, failuresInARow_append_of_failed own failed]
          | false =>
              rw [note_of_succeeded _ failed, Failures.run_succeed_self,
                failuresInARow_append_of_succeeded own failed]
      | false =>
          have differs : failureName collection.kind key ≠
              failureName conclusion.collection.kind conclusion.key := by
            intro same
            obtain ⟨rfl, rfl⟩ := failureName_inj plain plain_last same
            simp [Conclusion.isOver] at own
          rw [failuresInARow_append_of_other own]
          cases failed : conclusion.failed with
          | true =>
              rw [(note_of_failed _ failed).2, Failures.run_fail_of_ne differs, remembered]
          | false =>
              rw [note_of_succeeded _ failed, Failures.run_succeed_of_ne differs, remembered]

/-- The delay after a failed pass is the multiple of five seconds by the Fibonacci number of the
object's own failures in a row, but no more than five minutes; and as many failures are then
remembered.  It makes no difference how passes over other objects ended. -/
theorem retry_delay_of_own_failures (plain : key.IsPlain)
    (plain_all : ∀ conclusion ∈ history, conclusion.key.IsPlain) (memory : Memory)
    (error : PassError) :
    let failure : Conclusion := ⟨collection, key, memory, .error error⟩
    let count := failuresInARow (history ++ [failure]) collection key
    let noted := (afterAll requeueAfter history).note requeueAfter failure
    noted.1 = some (.ofSeconds (min 300 (Nat.fib count * 5))) ∧
      noted.2.failures.count (failureName collection.kind key) = count := by
  intro failure count noted
  have own : failure.isOver collection key = true := by simp [failure, Conclusion.isOver]
  have failed : failure.failed = true := rfl
  have one_more : count = failuresInARow history collection key + 1 :=
    failuresInARow_append_of_failed own failed
  have answer : (afterAll requeueAfter history).failures.fail (failureName collection.kind key) =
      (retryDelay count, (afterAll requeueAfter history).failures.insert
        (failureName collection.kind key) (.ofCount count)) := by
    rw [one_more]
    exact Failures.fail_eq (run_afterAll plain plain_all)
  obtain ⟨delay, failures⟩ : noted.1 = some _ ∧ noted.2.failures = _ :=
    note_of_failed (afterAll requeueAfter history) failed
  constructor
  · rw [delay, answer]
    rfl
  · rw [Failures.count, failures, answer, Failures.run_insert_self]
    rfl

/-- Passes over a machine, over another one of its name, and over a server of its name; one pass
over the machine succeeds, and three fail after it. -/
def Laboratory.troubles : List Conclusion :=
  let machine : ObjectKey := ⟨"lab", "one"⟩
  let namesake : ObjectKey := ⟨"field", "one"⟩
  let server : ObjectKey := ⟨"", "one"⟩
  [{ collection := .metalMachines, key := machine, result := .error (.invalidConfig "") },
    { collection := .metalMachines, key := machine, result := .ok .done },
    { collection := .metalMachines, key := machine, result := .error (.invalidConfig "") },
    { collection := .metalMachines, key := namesake, result := .ok .done },
    { collection := .metalMachines, key := machine, result := .error (.invalidConfig "") },
    { collection := .servers, key := server, result := .ok .done },
    { collection := .serverBindings, key := machine, result := .error (.invalidConfig "") },
    { collection := .metalMachines, key := machine, result := .error (.invalidConfig "") }]

theorem retry_delay_amid_troubles :
    (∀ conclusion ∈ Laboratory.troubles, conclusion.key.IsPlain) ∧
      let failure : Conclusion :=
        ⟨.metalMachines, ⟨"lab", "one"⟩, {}, .error (.serverNotAccepted "one")⟩
      let noted := (afterAll (.ofSeconds 60) Laboratory.troubles).note (.ofSeconds 60) failure
      noted.1 = some (.ofSeconds 15) ∧
        noted.2.failures.count (failureName Collection.metalMachines.kind ⟨"lab", "one"⟩) = 4 := by
  have plain_all : ∀ conclusion ∈ Laboratory.troubles, conclusion.key.IsPlain := by
    decide
  exact ⟨plain_all, retry_delay_of_own_failures (by decide) plain_all {} (.serverNotAccepted "one")⟩

end

end BareMetal
