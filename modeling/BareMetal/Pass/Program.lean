/-!
# Programs that ask their surroundings

A program either ends with a value or asks its surroundings something and goes on with the answer.
The same program can be run against different surroundings, and several programs can be run side by
side by letting the surroundings answer one question of each in turn.
-/

namespace BareMetal

/-- A computation that may ask `Query`s, each answered by a value of the type that belongs to it,
and ends with a value. -/
inductive Program (Query : Type) (Answer : Query → Type) (α : Type) where
  /-- Ends with a value. -/
  | done (value : α)
  /-- Asks something and goes on with the answer. -/
  | ask (query : Query) (next : Answer query → Program Query Answer α)

namespace Program

variable {Query : Type} {Answer : Query → Type} {α β : Type}

/-- Runs a program and goes on with the one that its value gives. -/
def bind : Program Query Answer α → (α → Program Query Answer β) → Program Query Answer β
  | done value, rest => rest value
  | ask query next, rest => ask query fun answer => (next answer).bind rest

instance : Monad (Program Query Answer) where
  pure := done
  bind := bind

theorem bind_done (program : Program Query Answer α) : program.bind done = program := by
  induction program with
  | done => rfl
  | ask query next ih => simp [bind, ih]

theorem bind_assoc {γ : Type} (program : Program Query Answer α)
    (second : α → Program Query Answer β) (third : β → Program Query Answer γ) :
    (program.bind second).bind third = program.bind fun value => (second value).bind third := by
  induction program with
  | done => rfl
  | ask query next ih => simp [bind, ih]

instance : LawfulMonad (Program Query Answer) :=
  LawfulMonad.mk' _
    (fun program => bind_done program)
    (fun _ _ => rfl)
    (fun program second third => bind_assoc program second third)

/-- A program that asks one thing and ends with the answer. -/
def query (query : Query) : Program Query Answer (Answer query) := ask query done

/-- Runs a program in surroundings that answer each query in turn. -/
def interpret {m : Type → Type} [Monad m] (answer : (query : Query) → m (Answer query)) :
    Program Query Answer α → m α
  | done value => pure value
  | ask query next => do interpret answer (next (← answer query))

end Program

end BareMetal
