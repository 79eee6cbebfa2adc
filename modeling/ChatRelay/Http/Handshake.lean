import ChatRelay.Digest.Sha1
import ChatRelay.Http.Request
import ChatRelay.Http.Response
import ChatRelay.Text.Base64

/-!
The handshake by which a request becomes a WebSocket, and the reason with which a socket is
closed.
-/

namespace ChatRelay.Http

/-- Why a request cannot become a WebSocket. -/
inductive HandshakeFault where
  | method
  | connection
  | upgrade
  | version
  | key
  | notUpgradable
  deriving DecidableEq, Repr

namespace HandshakeFault

def message : HandshakeFault → String
  | method => "Request method must be `GET`"
  | connection => "Connection header did not include 'upgrade'"
  | upgrade => "`Upgrade` header did not include 'websocket'"
  | version => "`Sec-WebSocket-Version` header did not include '13'"
  | key => "`Sec-WebSocket-Key` header missing"
  | notUpgradable =>
    "WebSocket request couldn't be upgraded since no upgrade state was present"

def status : HandshakeFault → Nat
  | method => 405
  | notUpgradable => 426
  | connection | upgrade | version | key => 400

def response (f : HandshakeFault) : Response :=
  .refusal f.status f.message

end HandshakeFault

def socketIdentifier : String := "258EAFA5-E914-47DA-95CA-C5AB0DC85B11"

/-- The answer to a key, which shows that the handshake was understood. -/
def acceptKey (key : String) : String :=
  String.ofList (Text.base64 (Digest.sha1 (Utf8.bytes (key ++ socketIdentifier))))

namespace Request

def asksForSocket (r : Request) : Bool :=
  Header.hasValue "upgrade" "websocket" r.headers

/-- The answer to the key of a request that can become a WebSocket; of several faults the first
in their order is reported. -/
def handshake (r : Request) : Except HandshakeFault String := do
  if r.method != "GET" then throw .method
  if !Header.hasPart "connection" "upgrade" r.headers then throw .connection
  if !r.asksForSocket then throw .upgrade
  if !Header.hasValue "sec-websocket-version" "13" r.headers then throw .version
  match Header.find? "sec-websocket-key" r.headers with
  | none => throw .key
  | some key => if r.isUpgradable then return acceptKey key else throw .notUpgradable

end Request

def handshakeHeaders (accept : String) : List Header :=
  [⟨"connection", "upgrade"⟩, ⟨"upgrade", "websocket"⟩, ⟨"sec-websocket-accept", accept⟩]

end ChatRelay.Http
