/-!
The endpoints of the backend that the relay adapts requests and answers for, and the paths they
stand at.
-/

namespace ChatRelay

inductive Endpoint where
  | generate
  | generateStream
  | chat
  | chatStream
  | rag
  deriving DecidableEq, Repr

namespace Endpoint

/-- All endpoints; of two that share a path the first one has it. -/
def all : List Endpoint := [.generate, .generateStream, .chat, .chatStream, .rag]

def name : Endpoint → String
  | generate => "generate"
  | generateStream => "generate-stream"
  | chat => "chat"
  | chatStream => "chat-stream"
  | rag => "context-aware-rag"

def ofName? (name : String) : Option Endpoint :=
  all.find? (·.name == name)

def isStreaming : Endpoint → Bool
  | generateStream | chatStream => true
  | generate | chat | rag => false

/-- Where each endpoint stands, as seen from the backend. -/
structure Paths where
  generate : String := "/generate"
  generateStream : String := "/generate/stream"
  chat : String := "/chat"
  chatStream : String := "/chat/stream"
  rag : String := "/call"
  deriving DecidableEq, Repr, Inhabited

def Paths.of (p : Paths) : Endpoint → String
  | .generate => p.generate
  | .generateStream => p.generateStream
  | .chat => p.chat
  | .chatStream => p.chatStream
  | .rag => p.rag

def Paths.resolve? (p : Paths) (path : String) : Option Endpoint :=
  all.find? (p.of · == path)

end Endpoint

end ChatRelay
