import ChatRelay.Chat.Parameters
import ChatRelay.Chat.Request

/-!
What chat and generation backends are sent.
-/

namespace ChatRelay.Chat

def sevenTenths : Number.Double := ⟨false, 6305039478318694, -53⟩

/-- What a chat payload says when the client does not. -/
structure Defaults where
  model : String := "nvidia/nemotron"
  temperature : Number.Extended := .finite sevenTenths
  deriving DecidableEq, Repr, Inhabited

/-- A double as JSON; what is not finite has no JSON number. -/
def jsonOfDouble : Number.Extended → Json
  | .finite x => .number (.real x)
  | .infinite _ => .null
  | .notANumber => .null

def generatePayload (r : Request) : Json :=
  .object [("input_message", .string (r.inputText.getD ""))]

/-- The messages that the backend sees: all, or the last one. -/
def selectedMessages (r : Request) : List Message :=
  if r.useChatHistory then r.messages else r.messages.getLast?.toList

/-- The members of a chat payload: the defaults, and over them the client's parameters. -/
def chatMembers (defaults : Defaults) (stream : Bool) (r : Request) : Json.Members :=
  let base := Json.Members.ofList
    [("model", .string defaults.model), ("temperature", jsonOfDouble defaults.temperature)]
  let merged := (Parameters.parse r.parametersText).foldl
    (fun members (key, value) => members.insert key value) base
  -- Put in last, so that no parameter changes them.
  (merged.insert "stream" (.bool stream)).insert "messages"
    (.array ((selectedMessages r).map (·.toJson)))

def chatPayload (defaults : Defaults) (stream : Bool) (r : Request) : Json :=
  .object (chatMembers defaults stream r)

end ChatRelay.Chat
