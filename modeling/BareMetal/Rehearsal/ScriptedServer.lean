import BareMetal.Api.Workload

/-!
# Scripted API servers

An API server for rehearsals: its answers are written down beforehand, and it keeps the requests
that it saw.
-/

namespace BareMetal

/-- A scripted API server. -/
structure ScriptedServer where
  /-- The answers that it still has. -/
  answers : List Api.Answer
  /-- The requests that it saw, first request first. -/
  requests : List Api.Request := []

namespace ScriptedServer

/-- Answers a request.  When the answers are used up, every request fails. -/
def answer (request : Api.Request) : StateM ScriptedServer (Option Api.Answer) := fun server =>
  let requests := server.requests ++ [request]
  match server.answers with
  | [] => (some ⟨500, ""⟩, { server with requests })
  | answer :: answers => (some answer, { answers, requests })

/-- Answers a request if it goes to the management cluster; other servers cannot be reached. -/
def answerManagement (dispatch : Api.Dispatch) : StateM ScriptedServer (Option Api.Answer) :=
  match dispatch.destination with
  | .management => answer dispatch.request
  | .workload _ => return none

/-- Carries on an exchange with the server to its end. -/
def serve {α : Type} (server : ScriptedServer) (exchange : Api.Exchange α) : α × ScriptedServer :=
  Program.interpret answer exchange server

/-- Carries on a correspondence to its end, with the server as that of the management cluster. -/
def serveManagement {α : Type} (server : ScriptedServer) (exchange : Api.Correspondence α) :
    α × ScriptedServer :=
  Program.interpret answerManagement exchange server

end ScriptedServer

end BareMetal
