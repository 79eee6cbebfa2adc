import ChatRelay.Gate.Allowlist
import ChatRelay.Url.Replace

/-!
The gate of WebSocket paths, and the URLs of the backend itself.
-/

namespace ChatRelay.Gate

/-- Why the path of an upgrade is turned away. -/
structure UpgradeRejection where
  path : List Char
  expected : List Char
  deriving DecidableEq, Repr

def UpgradeRejection.message (r : UpgradeRejection) : String :=
  "WebSocket path '" ++ String.ofList r.path ++ "' is not allowed. Expected: " ++
    String.ofList r.expected

/-- The one path that may be upgraded is the expected one, character for character. -/
def checkUpgrade (expected path : List Char) : Except UpgradeRejection Unit :=
  if path = expected then .ok () else .error ⟨path, expected⟩

/-- Why a backend's URL is refused. -/
inductive BackendFault where
  | notAUrl
  | scheme (name : List Char)
  deriving DecidableEq, Repr

def BackendFault.message : BackendFault → String
  | .notAUrl => "Invalid URL format"
  | .scheme name =>
    "Protocol '" ++ String.ofList name ++ ":' is not allowed. Use http or https."

def isHttp (scheme : List Char) : Bool :=
  scheme == "http".toList || scheme == "https".toList

def checkBackend (url : List Char) : Except BackendFault Unit :=
  match Url.parse url with
  | .error _ => .error .notAUrl
  | .ok parsed => if isHttp parsed.scheme then .ok () else .error (.scheme parsed.scheme)

/-- Why a backend's URL has no WebSocket URL. -/
inductive SocketFault where
  | notAUrl (fault : Url.Fault)
  | noSocket (url : List Char)
  deriving DecidableEq, Repr

def SocketFault.message : SocketFault → String
  | .notAUrl fault => fault.message
  | .noSocket url => "cannot use " ++ String.ofList url ++ " as a WebSocket URL"

/-- The WebSocket scheme beside a scheme: the secure one beside a secure one. -/
def socketScheme (scheme : List Char) : List Char :=
  if scheme = "https".toList ∨ scheme = "wss".toList then "wss".toList else "ws".toList

/-- The WebSocket URL at a backend: its host, a configured path and the client's query. -/
def socketUrl (backend path : List Char) (query : Option (List Char)) :
    Except SocketFault Url := do
  match Url.parse backend with
  | .error fault => throw (.notAUrl fault)
  | .ok url =>
    match url.withScheme? (socketScheme url.scheme) with
    | none => throw (.noSocket backend)
    | some socket => return (socket.withPath path).withQuery query

end ChatRelay.Gate
