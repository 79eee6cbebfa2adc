import ChatRelay.Relay.Exchange
import ChatRelay.Relay.Route

/-!
Which part of a relay answers a request: health checks, the root, the WebSocket path, or none; and
what each part does.
-/

namespace ChatRelay

namespace Relay

inductive Handler where
  | health
  | proxied
  | socket
  | none
  deriving DecidableEq, Repr

/-- The routes of a relay and what they lead to. -/
def routes (relay : Relay) : List (Route × Handler) :=
  [("/healthz".toList, .health), ("/health".toList, .health), (relay.allowlist.root, .proxied),
    (relay.allowlist.root ++ "/*path".toList, .proxied), (relay.socketPath, .socket)].map
    fun (pattern, handler) => (Route.ofPattern pattern, handler)

/-- What the route of a path leads to; on one route there may be several parts. -/
def handlersAt (relay : Relay) (path : List Char) : List Handler :=
  match Route.best? path (relay.routes.map (·.1)) with
  | some route => (relay.routes.filter (·.1 == route)).map (·.2)
  | none => []

def isGet (method : String) : Bool :=
  method == "GET" || method == "HEAD"

def handlerOf (relay : Relay) (method : String) (path : List Char) : Handler :=
  -- What is under the root takes any method that another part on the same route does not take.
  let (takesAny, takesGet) := (relay.handlersAt path).partition (· == .proxied)
  (if isGet method then takesGet ++ takesAny else takesAny ++ takesGet).headD .none

def healthy : Http.Response := .ofMember 200 "status" "ok"

def notFound : Http.Response := .ofMember 404 "error" "Not found"

/-- The answer of a part that knows GET alone, and HEAD as GET without a body. -/
def answerGet (r : Http.Request) (answer : Answer) : Answer :=
  if r.method = "GET" then answer
  else if r.method = "HEAD" then
    match answer with
    | .response response => .response response.withoutBody
    | other => other
  else .response (.empty 405 [⟨"allow", "GET,HEAD"⟩])

/-- The answer on the WebSocket path: the client is joined to the backend's socket, if the
backend has a URL for one. -/
def answerSocket (relay : Relay) (r : Http.Request) : Answer :=
  match r.handshake with
  | .error fault => .response fault.response
  | .ok accept =>
    match Gate.checkUpgrade relay.socketPath r.target.path with
    | .error rejection => .closed accept (closeReason rejection.message)
    | .ok () =>
      match Gate.socketUrl relay.backend relay.backendSocketPath r.target.query with
      | .ok url => .joined accept url
      | .error fault => .response (Failure.invalidBackendUrl fault.message).response

/-- The answer for a path that belongs to no part; a WebSocket is accepted only to be closed. -/
def answerNone (relay : Relay) (r : Http.Request) : Answer :=
  match r.handshake with
  | .ok accept => .closed accept (closeReason (relay.upgradeReason r.target.path))
  | .error _ => .response notFound

def handle (relay : Relay) (backend : Backend) (sessions : Rag.Sessions) (r : Http.Request) :
    Handler → Exchange
  | .health => .quiet sessions (answerGet r (.response healthy))
  | .proxied => relay.serve backend sessions r
  | .socket => .quiet sessions (answerGet r (relay.answerSocket r))
  | .none => .quiet sessions (relay.answerNone r)

def respond (relay : Relay) (backend : Backend) (sessions : Rag.Sessions) (r : Http.Request) :
    Exchange :=
  relay.handle backend sessions r (relay.handlerOf r.method r.target.path)

end Relay

end ChatRelay
