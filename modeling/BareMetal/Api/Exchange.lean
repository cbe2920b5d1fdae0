import BareMetal.Api.Answer
import BareMetal.Api.Request
import BareMetal.Pass.Program

/-!
# Exchanges with the API server

A computation that sends requests one after the other and goes on with the answers.  An answer may
fail to come.
-/

namespace BareMetal.Api

/-- A computation that sends requests to an API server. -/
abbrev Exchange := Program Request fun _ => Option Answer

/-- What came for a request, read as the type that was asked for. -/
def received {α : Type} (read : Json → Option α) : Option Answer → Except Failure α
  | none => .error .unanswered
  | some answer => answer.read read

/-- Sends a request, if it can be sent, and reads the answer. -/
def Exchange.send {α : Type} (request? : Option Request) (read : Json → Option α) :
    Exchange (Except Failure α) :=
  match request? with
  | none => return .error .unsendable
  | some request => return received read (← Program.query request)

/-- What an exchange about an object gave, its failure as a store error. -/
def Exchange.about {α : Type} (what : String) (exchange : Exchange (Except Failure α)) :
    Exchange (Except StoreError α) := do
  return (← exchange).mapError (Failure.storeError what)

end BareMetal.Api
