import ChatRelay.Json.Printer
import ChatRelay.Text.Utf8
import ChatRelay.Http.Header
import ChatRelay.Http.Status

/-!
Responses to the client.
-/

namespace ChatRelay.Http

/-- A response: its status, its headers and the bytes of its body. -/
structure Response where
  status : Nat
  headers : List Header
  body : List UInt8
  deriving DecidableEq, Repr, Inhabited

namespace Response

def empty (status : Nat) (headers : List Header) : Response :=
  ⟨status, headers, []⟩

def ofText (status : Nat) (contentType : String) (headers : List Header) (body : String) :
    Response :=
  ⟨status, ⟨"content-type", contentType⟩ :: headers, Utf8.bytes body⟩

def ofMember (status : Nat) (key value : String) : Response :=
  ofText status "application/json" [] (Json.object [(key, .string value)]).compact

def refusal (status : Nat) (text : String) : Response :=
  ofText status "text/plain; charset=utf-8" [] text

def withoutBody (r : Response) : Response :=
  { r with body := [] }

end Response

end ChatRelay.Http
