import ChatRelay.Chat.Payload
import ChatRelay.Endpoint.Basic
import ChatRelay.Gate.Backend
import ChatRelay.Text.Quoted

/-!
The configuration of a relay: its parts with their defaults, its text as JSON, and what makes it
one that the gates can enforce.
-/

namespace ChatRelay

structure Config.Server where
  port : Nat := 3000
  host : String := "127.0.0.1"
  deriving DecidableEq, Repr, Inhabited

/-- Where the backend is, and the proxy through which it is reached. -/
structure Config.Backend where
  url : String := "http://127.0.0.1:8000"
  socketPath : String := "/websocket"
  proxy : Option String := none
  deriving DecidableEq, Repr, Inhabited

/-- The backend paths that may be forwarded unless others are given. -/
def Config.defaultAllowedPaths : List String :=
  ["/chat", "/chat/stream", "/generate", "/generate/stream", "/call", "/mcp/client/tool/list"]

/-- What the relay serves: a root for HTTP, one path for WebSockets, the backend paths that may
be forwarded, the origin of pages that may read answers, and the adapted endpoints. -/
structure Config.Routes where
  httpRoot : String := "/api"
  socketPath : String := "/ws"
  allowedPaths : List String := Config.defaultAllowedPaths
  corsOrigin : String := "http://localhost:3000"
  endpoints : Endpoint.Paths := {}
  deriving DecidableEq, Repr, Inhabited

structure Config.Timeouts where
  request : Nat := 120
  connect : Nat := 20
  streamIdle : Nat := 300
  deriving DecidableEq, Repr, Inhabited

structure Config where
  server : Config.Server := {}
  backend : Config.Backend := {}
  routes : Config.Routes := {}
  chat : Chat.Defaults := {}
  ragUuid : String := "123456"
  timeouts : Config.Timeouts := {}
  deriving DecidableEq, Repr, Inhabited

namespace Config

def allowlist (c : Config) : Gate.Allowlist :=
  ⟨c.routes.httpRoot.toList, c.routes.allowedPaths.map String.toList⟩

/-! ### Validity -/

/-- Why the gates cannot enforce a configuration. -/
inductive Fault where
  | httpRoot (root : String)
  | socketPath (path : String)
  | allowedPath (path : String)
  | backend (url : String) (fault : Gate.BackendFault)
  deriving DecidableEq, Repr

def Fault.message : Fault → String
  | httpRoot root =>
    "routes.http_root must be absolute without a trailing slash: " ++ Text.quoted root
  | socketPath path => "routes.websocket_path must be absolute: " ++ Text.quoted path
  | allowedPath path => "routes.allowed_paths entries must be absolute: " ++ Text.quoted path
  | backend url fault => "backend.url " ++ Text.quoted url ++ " rejected: " ++ fault.message

def isAbsolute (path : String) : Bool :=
  path.toList.head? == some '/'

def endsWithSlash (path : String) : Bool :=
  path.toList.getLast? == some '/'

/-- The first fault of a configuration: the root must be absolute and not end with a slash, the
other paths must be absolute, and the backend must be one of HTTP. -/
def check (c : Config) : Except Fault Unit := do
  if !isAbsolute c.routes.httpRoot || endsWithSlash c.routes.httpRoot then
    throw (.httpRoot c.routes.httpRoot)
  if !isAbsolute c.routes.socketPath then
    throw (.socketPath c.routes.socketPath)
  match c.routes.allowedPaths.find? (!isAbsolute ·) with
  | some path => throw (.allowedPath path)
  | none => pure ()
  (Gate.checkBackend c.backend.url.toList).mapError (.backend c.backend.url)

/-! ### Text -/

open Json in
def write (c : Config) : String :=
  String.ofList (writeRecord [
    ("server", writeRecord [
      ("port", (toString c.server.port).toList),
      ("host", quote c.server.host)]),
    ("backend", writeRecord [
      ("url", quote c.backend.url),
      ("websocket_path", quote c.backend.socketPath),
      ("proxy", (c.backend.proxy.map quote).getD "null".toList)]),
    ("routes", writeRecord [
      ("http_root", quote c.routes.httpRoot),
      ("websocket_path", quote c.routes.socketPath),
      ("allowed_paths", (array (c.routes.allowedPaths.map .string)).write),
      ("cors_origin", quote c.routes.corsOrigin),
      ("endpoints", writeRecord [
        ("generate", quote c.routes.endpoints.generate),
        ("generate_stream", quote c.routes.endpoints.generateStream),
        ("chat", quote c.routes.endpoints.chat),
        ("chat_stream", quote c.routes.endpoints.chatStream),
        ("context_aware_rag", quote c.routes.endpoints.rag)])]),
    ("chat", writeRecord [
      ("model", quote c.chat.model),
      ("temperature", (Chat.jsonOfDouble c.chat.temperature).write)]),
    ("rag", writeRecord [("uuid", quote c.ragUuid)]),
    ("timeouts", writeRecord [
      ("request_timeout", (toString c.timeouts.request).toList),
      ("connect_timeout", (toString c.timeouts.connect).toList),
      ("stream_idle_timeout", (toString c.timeouts.streamIdle).toList)])])

end Config

end ChatRelay
