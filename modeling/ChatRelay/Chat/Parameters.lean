import ChatRelay.Json.Reader
import ChatRelay.Text.Blank

/-!
The free text in which a client gives optional generation parameters: a JSON object, or pairs
`key=value` with commas between them. Text that is neither gives no parameters.
-/

namespace ChatRelay.Chat.Parameters

def reserved : List String := ["messages", "stream"]

/-- The value that a text writes: a truth value, a whole number of 64 bits, a finite double, or
else itself. -/
def scalar (cs : List Char) : Json :=
  if cs = "true".toList then .bool true
  else if cs = "false".toList then .bool false
  else match Number.readInt64? cs with
    | some n => .number (.int n)
    | none => match Number.readExtended? cs with
      | some (.finite x) => .number (.real x)
      | _ => .string (String.ofList cs)

def pair? (piece : List Char) : Option (String × Json) := do
  let (key, value) ← Text.splitOnce '=' piece
  let key := Text.trim key
  if key.isEmpty then none else some (String.ofList key, scalar (Text.trim value))

def pieces (cs : List Char) : List (List Char) :=
  ((cs.splitOn ',').map Text.trim).filter (!·.isEmpty)

def pairs? (cs : List Char) : Option (List (String × Json)) :=
  (pieces cs).mapM pair?

def parse (text : String) : Json.Members :=
  let trimmed := Text.trim text.toList
  let all : Json.Members :=
    match Json.parse? (String.ofList trimmed) with
    | some (.object members) => members
    -- One piece that is no pair makes all of the text say nothing.
    | _ => Json.Members.ofList ((pairs? trimmed).getD [])
  all.keep (· ∉ reserved)

end ChatRelay.Chat.Parameters
