import ChatRelay.Chat.Answer
import ChatRelay.Endpoint.Basic
import ChatRelay.Failure
import ChatRelay.Http.MediaType
import ChatRelay.Stream.Relay
import ChatRelay.Text.Charset

/-!
What the client is answered when an endpoint has answered the relay. A failure of the backend
goes back under its own status; a success is read whole or streamed.
-/

namespace ChatRelay

/-- An answer of the backend: its status, its headers, and its body as it arrives. -/
structure Reply where
  status : Nat
  headers : List Http.Header
  events : List Stream.Event
  deriving DecidableEq, Repr, Inhabited

namespace Reply

def bytes? : List Stream.Event → Option (List UInt8)
  | [] => some []
  | .ended :: _ => some []
  | .chunk bytes :: events => (bytes? events).map (bytes ++ ·)
  | .failure :: _ => none
  | .stall :: _ => none

/-- The body as text, in the character set that the content type names. -/
def text? (r : Reply) : Option String :=
  let charset := (Http.Header.find? "content-type" r.headers).bind Http.MediaType.charset?
  (bytes? r.events).map fun bytes => String.ofList (Text.Charset.read charset bytes)

/-- The answer for a backend that reports a failure: its status and its text. -/
def relayed (r : Reply) : Http.Response :=
  .ofText r.status "application/json" [] (r.text?.getD "")

end Reply

/-- The origin that answers allow; a text that cannot be a header value stands for none. -/
def allowedOrigin (origin : String) : String :=
  if Http.isValue origin then origin else "null"

/-- The headers that let a page of the allowed origin read an answer. -/
def originHeaders (origin : String) : List Http.Header :=
  [⟨"access-control-allow-origin", allowedOrigin origin⟩,
    ⟨"access-control-allow-credentials", "true"⟩]

def bodyBroken : Failure := .backendFailed "error decoding response body"

def wholeAnswer (contentType origin : String) (extract : String → String) (r : Reply) :
    Http.Response :=
  if Http.isSuccess r.status then
    match r.text? with
    | some text => .ofText 200 contentType (originHeaders origin) (extract text)
    | none => bodyBroken.response
  else r.relayed

/-- The answer made of a stream; its body is what is written until the stream ends. -/
def streamedAnswer (flavor : Stream.Flavor) (origin : String) (r : Reply) : Http.Response :=
  if Http.isSuccess r.status then
    .ofText 200 "text/event-stream; charset=utf-8"
      (⟨"transfer-encoding", "chunked"⟩ :: originHeaders origin)
      (String.join (Stream.writes flavor r.events))
  else r.relayed

def Endpoint.answer (e : Endpoint) (origin : String) (r : Reply) : Http.Response :=
  match e with
  | generate => wholeAnswer "application/json; charset=utf-8" origin id r
  | generateStream => streamedAnswer .generate origin r
  | chat => wholeAnswer "text/plain; charset=utf-8" origin Chat.chatAnswer r
  | chatStream => streamedAnswer .chat origin r
  | rag => wholeAnswer "text/plain; charset=utf-8" origin Chat.ragAnswer r

end ChatRelay
