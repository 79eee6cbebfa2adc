import ChatRelay.Chat.Message

/-!
The body of a client's request to an adapted endpoint.
-/

namespace ChatRelay.Chat

/-- What the client asks for. -/
structure Request where
  messages : List Message := []
  useChatHistory : Bool := true
  optionalParameters : Option String := none
  conversationId : Option String := none
  inputMessage : Option String := none
  deriving DecidableEq, Repr, Inhabited

namespace Request

/-- The prompt: an explicit one, else the content of the last message. -/
def inputText (r : Request) : Option String :=
  r.inputMessage <|> r.messages.getLast?.map (·.content)

def parametersText (r : Request) : String :=
  r.optionalParameters.getD ""

/-- A request of which not all fields have been read; a field that was null has been read. -/
structure Draft where
  messages : Option (List Message) := none
  useChatHistory : Option Bool := none
  optionalParameters : Option (Option String) := none
  conversationId : Option (Option String) := none
  inputMessage : Option (Option String) := none

open Json Json.Read

def record : Record Draft Request where
  expected := "struct UiRequest"
  isOpenEnded := true
  fields := [
    ⟨"messages", (·.messages.isSome), fun d bytes => do
      let (x, rest) ← listOf Message.read bytes
      .ok ({ d with messages := some x }, rest)⟩,
    ⟨"useChatHistory", (·.useChatHistory.isSome), fun d bytes => do
      let (x, rest) ← boolean bytes
      .ok ({ d with useChatHistory := some x }, rest)⟩,
    ⟨"optionalGenerationParameters", (·.optionalParameters.isSome), fun d bytes => do
      let (x, rest) ← optional text bytes
      .ok ({ d with optionalParameters := some x }, rest)⟩,
    ⟨"conversationId", (·.conversationId.isSome), fun d bytes => do
      let (x, rest) ← optional text bytes
      .ok ({ d with conversationId := some x }, rest)⟩,
    ⟨"inputMessage", (·.inputMessage.isSome), fun d bytes => do
      let (x, rest) ← optional text bytes
      .ok ({ d with inputMessage := some x }, rest)⟩]
  finish d := .ok {
    messages := d.messages.getD []
    useChatHistory := d.useChatHistory.getD true
    optionalParameters := d.optionalParameters.join
    conversationId := d.conversationId.join
    inputMessage := d.inputMessage.join }

def parse (body : List UInt8) : Except Fault Request :=
  entire (record.read {}) body

def isBodyBlank (b : UInt8) : Bool :=
  b == 0x20 || b == 0x09 || b == 0x0A || b == 0x0C || b == 0x0D

/-- Reads a request; a blank body asks for the defaults. -/
def ofBody (body : List UInt8) : Except Fault Request :=
  if body.all isBodyBlank then .ok {} else parse body

end Request

end ChatRelay.Chat
