import ChatRelay.Endpoint.Answer
import ChatRelay.Gate.Backend

/-!
The calls that a relay makes to its backend. A backend is anything that answers calls or fails
them with a reason; one of these cannot be reached at all.
-/

namespace ChatRelay

/-- A call: the initialization of a session, a payload posted to an endpoint, or a request
passed on as it is. -/
inductive Call where
  | initialization (url : List Char) (uuid : String)
  | post (url : List Char) (payload : Json) (streaming : Bool)
  | forward (url : List Char) (method : String) (headers : List Http.Header) (body : List UInt8)

def Call.url : Call → List Char
  | initialization url _ => url
  | post url _ _ => url
  | forward url _ _ _ => url

/-- A backend: what it replies to each call, or why the call fails. -/
abbrev Backend := Call → Except String Reply

namespace Backend

/-- A URL without its user, who is named in a header instead. A user whose name is no text
stays. -/
def withoutUser (u : Url) : Url :=
  if (Utf8.decode? (Url.percentDecode (Utf8.encode u.username))).isSome then
    { u with authority := u.authority.map fun a => { a with username := [], password := none } }
  else u

/-- Why a call to a backend that cannot be reached fails: its URL is none, is none of HTTP, or
nobody is there. -/
def failureAt (url : List Char) : String :=
  match Url.parse url with
  | .error _ => "builder error"
  | .ok parsed =>
    let shown := String.ofList (withoutUser parsed).write
    if Gate.isHttp parsed.scheme then "error sending request for url (" ++ shown ++ ")"
    else "builder error for url (" ++ shown ++ ")"

def unreachable : Backend := fun call => .error (failureAt call.url)

end Backend

end ChatRelay
