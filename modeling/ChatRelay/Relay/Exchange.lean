import ChatRelay.Endpoint.Payload
import ChatRelay.Http.Handshake
import ChatRelay.Json.Fault
import ChatRelay.Relay.Backend
import ChatRelay.Relay.Basic
import ChatRelay.Text.Cut
import ChatRelay.Url.Form

/-!
How a relay serves one request under its root. Every request passes the gate before the backend
is called; a path of an adapted endpoint has its payload built and its answer adapted, and any
other allowed path is passed on as it is.
-/

namespace ChatRelay

/-- What the client gets: a response, a WebSocket that is closed at once with a reason, or a
WebSocket that is joined to one of the backend. -/
inductive Answer where
  | response (r : Http.Response)
  | closed (accept reason : String)
  | joined (accept : String) (target : Url)
  deriving DecidableEq, Repr

/-- What comes of a request: the answer, the calls made for it, and the conversations known
afterwards. -/
structure Exchange where
  answer : Answer
  calls : List Call
  sessions : Rag.Sessions

namespace Exchange

def quiet (sessions : Rag.Sessions) (answer : Answer) : Exchange :=
  ⟨answer, [], sessions⟩

def refused (sessions : Rag.Sessions) (failure : Failure) : Exchange :=
  quiet sessions (.response failure.response)

end Exchange

def responseOf : Except Failure Http.Response → Http.Response
  | .ok r => r
  | .error failure => failure.response

/-- The code with which a socket is closed that breaks the rules. -/
def policyViolation : Nat := 1008

/-- The frame that closes a WebSocket. -/
structure CloseFrame where
  code : Nat
  reason : String
  deriving DecidableEq, Repr

/-- The frames that the relay itself closes a client's WebSocket with. -/
def Answer.closeFrames : Answer → List CloseFrame
  | .closed _ reason => [⟨policyViolation, reason⟩]
  | .response _ | .joined _ _ => []

def closeReasonLimit : Nat := 123

def closeReason (reason : String) : String :=
  String.ofList (Text.cut closeReasonLimit reason.toList)

namespace Relay

def upgradeReason (relay : Relay) (path : List Char) : String :=
  match Gate.checkUpgrade relay.socketPath path with
  | .error rejection => rejection.message
  | .ok () => "WebSocket upgrade rejected"

/-- The answer to a request that asks for an upgrade where there is none. -/
def refuseUpgrade (relay : Relay) (r : Http.Request) : Answer :=
  let reason := relay.upgradeReason r.target.path
  match r.handshake with
  | .ok accept => .closed accept (closeReason reason)
  | .error _ => .response (Failure.forbiddenPath reason).response

/-- The answer to a question about what is allowed: methods, headers and origin. -/
def preflight (relay : Relay) : Http.Response :=
  .empty 204 (originHeaders relay.corsOrigin ++ [
    ⟨"access-control-allow-methods", "GET, POST, PUT, DELETE, OPTIONS"⟩,
    ⟨"access-control-allow-headers", "Content-Type, Authorization"⟩,
    ⟨"access-control-max-age", "86400"⟩])

/-! ### Conversations -/

def conversationKeys : List String := ["conversationId", "session"]

/-- The conversation that a query names: the first value of one of the keys that is not empty. -/
def conversationOfQuery (query : Option (List Char)) : Option String := do
  let query ← query
  let (_, value) ← (Url.Form.pairs query).find? fun (key, value) =>
    conversationKeys.contains key && value != ""
  some value

/-- The request of a body; its conversation may come from the query instead. -/
def chatRequest (body : List UInt8) (query : Option (List Char)) :
    Except Failure Chat.Request :=
  match Chat.Request.ofBody body with
  | .error fault => .error (.badRequest fault.message)
  | .ok r => .ok { r with conversationId := r.conversationId <|> conversationOfQuery query }

/-! ### Calls -/

def initializationUrl (backend : List Char) : List Char :=
  Gate.trimSlashes backend ++ "/init".toList

/-- Initializing a session at a backend: any success will do. -/
def initializerOf (backend : Backend) : Rag.Initializer := fun url uuid =>
  match backend (.initialization (initializationUrl url) uuid) with
  | .error reason => .error (.initializationFailed reason)
  | .ok reply =>
    if Http.isSuccess reply.status then .ok ()
    else .error (.initializationFailed (Http.reasonOf reply.status))

def serveEndpoint (relay : Relay) (backend : Backend) (sessions : Rag.Sessions)
    (e : Endpoint) (target : Gate.Target) (r : Http.Request) : Exchange :=
  match (r.body.mapError Failure.badRequest).bind (chatRequest · target.query) with
  | .error failure => .refused sessions failure
  | .ok chat =>
    let built := e.build chat relay.chat relay.backend sessions (initializerOf backend)
    -- A conversation may have to be initialized first, which counts even if the payload fails.
    let before := built.calls.map fun (url, uuid) =>
      Call.initialization (initializationUrl url) uuid
    match built.result with
    | .error failure => ⟨.response failure.response, before, built.sessions⟩
    | .ok payload =>
      let post := Call.post (target.url relay.backend) payload e.isStreaming
      let response := responseOf <| match backend post with
        | .ok reply => .ok (e.answer relay.corsOrigin reply)
        | .error reason => .error (.backendFailed reason)
      ⟨.response response, before ++ [post], built.sessions⟩

def passOn (relay : Relay) (backend : Backend) (sessions : Rag.Sessions) (target : Gate.Target)
    (r : Http.Request) : Exchange :=
  match r.body with
  | .error reason => .refused sessions (.badRequest reason)
  | .ok body =>
    let call := Call.forward (target.url relay.backend) r.method
      (Http.Header.forwarded r.headers) body
    let response := responseOf <| match backend call with
      -- A body that breaks off has been sent as far as it arrived.
      | .ok reply =>
        .ok ⟨reply.status, Http.Header.forwarded reply.headers, Stream.arriving reply.events⟩
      | .error reason => .error (.backendFailed reason)
    ⟨.response response, [call], sessions⟩

def notAllowed (method : String) (path : List Char) : Failure :=
  .methodNotAllowed (method ++ " is not allowed on " ++ String.ofList path ++ "; use POST")

def serve (relay : Relay) (backend : Backend) (sessions : Rag.Sessions) (r : Http.Request) :
    Exchange :=
  if r.asksForSocket then .quiet sessions (relay.refuseUpgrade r)
  -- The gate comes before all that depends on the method or the endpoint.
  else match relay.allowlist.resolve r.target.text with
    | .error rejection => .refused sessions (.forbiddenPath rejection.message)
    | .ok target =>
      if r.method = "OPTIONS" then .quiet sessions (.response relay.preflight)
      else match relay.endpoints.resolve? (String.ofList target.backendPath) with
        | none => relay.passOn backend sessions target r
        | some e =>
          if r.method = "POST" then relay.serveEndpoint backend sessions e target r
          else .refused sessions (notAllowed r.method target.path)

end Relay

end ChatRelay
