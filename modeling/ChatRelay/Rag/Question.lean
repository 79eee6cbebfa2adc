import ChatRelay.Chat.Message
import ChatRelay.Failure
import ChatRelay.Gate.Backend
import ChatRelay.Rag.Sessions

/-!
Putting a question to the retrieval backend. The first question of a conversation waits for the
conversation to be initialized there. Looking up the key and settling the outcome are separate
steps, between which other requests may run.
-/

namespace ChatRelay.Rag

def noQuestion : String := "User message not found: messages array is empty or invalid."

def payload (question : String) : Json :=
  .object [("state", .object [("chat", .object [("question", .string question)])])]

/-- The question: what the user said last. -/
def question? (messages : List Chat.Message) : Except Failure String :=
  match messages.getLast? with
  | some ⟨.user, content⟩ => .ok content
  | _ => .error (.invalidInput noQuestion)

/-- What a question needs before it can be put. -/
inductive Need where
  | nothing
  | initialization (key : String)
  deriving DecidableEq, Repr

/-- A conversation that is not in the set needs an initialization, which only a valid backend
can give. -/
def need (sessions : Sessions) (conversation : Option String) (backend : List Char) :
    Except Failure Need :=
  let key := sessions.key conversation
  if sessions.isInitialized key then .ok .nothing
  else match Gate.checkBackend backend with
    | .ok () => .ok (.initialization key)
    | .error fault => .error (.invalidBackendUrl fault.message)

def initializationFailure : Failure → Failure
  | .initializationFailed reason => .initializationFailed reason
  | other => .initializationFailed other.message

/-- Settles an initialization: success puts the key into the set. -/
def settle (sessions : Sessions) (key : String) :
    Except Failure Unit → Except Failure Unit × Sessions
  | .ok () => (.ok (), sessions.mark key)
  | .error failure => (.error (initializationFailure failure), sessions)

/-- How a backend at a URL takes the initialization of a session. -/
abbrev Initializer := (backend : List Char) → (uuid : String) → Except Failure Unit

/-- What comes of a question: the payload or a failure, the set afterwards, and the
initializations that were asked for. -/
structure Outcome where
  result : Except Failure Json
  sessions : Sessions
  calls : List (List Char × String)

/-- Builds the payload of a question, initializing its conversation if need be. -/
def build (messages : List Chat.Message) (conversation : Option String) (backend : List Char)
    (sessions : Sessions) (initializer : Initializer) : Outcome :=
  match question? messages with
  | .error failure => ⟨.error failure, sessions, []⟩
  | .ok question =>
    match need sessions conversation backend with
    | .error failure => ⟨.error failure, sessions, []⟩
    | .ok .nothing => ⟨.ok (payload question), sessions, []⟩
    -- A failed initialization leaves the set as it was, so that the next question tries again.
    | .ok (.initialization key) =>
      let (settled, sessions') := settle sessions key (initializer backend sessions.uuid)
      ⟨settled.map fun () => payload question, sessions', [(backend, sessions.uuid)]⟩

end ChatRelay.Rag
