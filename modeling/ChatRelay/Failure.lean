import ChatRelay.Http.Response

/-!
Why a request is not served, and the answer that the client gets.
-/

namespace ChatRelay

inductive Failure where
  | invalidInput (reason : String)
  | initializationFailed (reason : String)
  | forbiddenPath (reason : String)
  | invalidBackendUrl (reason : String)
  | backendFailed (reason : String)
  | badRequest (reason : String)
  | methodNotAllowed (reason : String)
  deriving DecidableEq, Repr, Inhabited

namespace Failure

def message : Failure → String
  | invalidInput reason => reason
  | initializationFailed reason => "CA RAG initialization failed: " ++ reason
  | forbiddenPath reason => reason
  | invalidBackendUrl reason => "Invalid backend URL: " ++ reason
  | backendFailed reason => "Upstream request failed: " ++ reason
  | badRequest reason => "Invalid request body: " ++ reason
  | methodNotAllowed reason => reason

def status : Failure → Nat
  | invalidInput _ => 400
  | initializationFailed _ => 502
  | forbiddenPath _ => 403
  | invalidBackendUrl _ => 500
  | backendFailed _ => 502
  | badRequest _ => 400
  | methodNotAllowed _ => 405

/-- The answer to the client: the wording in a JSON object. -/
def response (f : Failure) : Http.Response :=
  .ofMember f.status "error" f.message

end Failure

end ChatRelay
