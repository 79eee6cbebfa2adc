import ChatRelay.Chat.Payload
import ChatRelay.Endpoint.Basic
import ChatRelay.Rag.Question

/-!
The payload that an endpoint is sent for a client's request.
-/

namespace ChatRelay.Endpoint

/-- Builds the payload of an endpoint. Only a question to the retrieval backend can fail, need
an initialization or change the set of conversations. -/
def build (e : Endpoint) (r : Chat.Request) (defaults : Chat.Defaults) (backend : List Char)
    (sessions : Rag.Sessions) (initializer : Rag.Initializer) : Rag.Outcome :=
  match e with
  | generate | generateStream => ⟨.ok (Chat.generatePayload r), sessions, []⟩
  | chat => ⟨.ok (Chat.chatPayload defaults false r), sessions, []⟩
  | chatStream => ⟨.ok (Chat.chatPayload defaults true r), sessions, []⟩
  | rag => Rag.build r.messages r.conversationId backend sessions initializer

end ChatRelay.Endpoint
