/-!
The conversations that the retrieval backend has been told about.
-/

namespace ChatRelay.Rag

/-- The session identifier, and the keys of the conversations that have been initialized, each
once. -/
structure Sessions where
  uuid : String
  keys : List String
  deriving DecidableEq, Repr, Inhabited

namespace Sessions

def fresh (uuid : String) : Sessions := ⟨uuid, []⟩

def defaultConversation : String := "default"

/-- The key of a conversation; an empty name is no name. -/
def key (s : Sessions) (conversation : Option String) : String :=
  s.uuid ++ "-" ++ (conversation.filter (· != "")).getD defaultConversation

def isInitialized (s : Sessions) (key : String) : Bool :=
  s.keys.contains key

def mark (s : Sessions) (key : String) : Sessions :=
  if s.isInitialized key then s else { s with keys := key :: s.keys }

def size (s : Sessions) : Nat := s.keys.length

end Sessions

end ChatRelay.Rag
