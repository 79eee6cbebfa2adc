import ChatRelay.Url.Percent

/-!
Form-encoded pairs, as queries carry them.
-/

namespace ChatRelay.Url.Form

/-- The text of an encoded name or value: a plus is a space, a percent triple is its byte, and
what is then no text reads as U+FFFD. -/
def decode (cs : List Char) : String :=
  let spaced := cs.map fun c => if c = '+' then ' ' else c
  String.ofList (Utf8.decodeLossy (percentDecode (Utf8.encode spaced)))

/-- The pair of a piece: the name before its first equals sign, and the value after it. -/
def pair (piece : List Char) : String × String :=
  let (name, rest) := piece.span (· != '=')
  (decode name, decode (rest.drop 1))

def pairs (query : List Char) : List (String × String) :=
  ((query.splitOn '&').filter (!·.isEmpty)).map pair

end ChatRelay.Url.Form
