import ChatRelay.Json.Shape
import ChatRelay.Json.Printer

/-!
Chat messages as the client sends them and the backend receives them.
-/

namespace ChatRelay.Chat

inductive Role where
  | user
  | assistant
  | system
  deriving DecidableEq, Repr

def Role.all : List Role := [.user, .assistant, .system]

def Role.name : Role → String
  | .user => "user"
  | .assistant => "assistant"
  | .system => "system"

def Role.ofName? (name : String) : Option Role :=
  Role.all.find? (·.name == name)

structure Message where
  role : Role
  content : String
  deriving DecidableEq, Repr

namespace Message

def toJson (m : Message) : Json :=
  Json.ofMembers [("role", .string m.role.name), ("content", .string m.content)]

def write (m : Message) : String :=
  String.ofList (Json.writeRecord
    [("role", Json.quote m.role.name), ("content", Json.quote m.content)])

/-- A message of which not all fields have been read. -/
structure Draft where
  role : Option Role
  content : Option String

open Json Json.Read

def readRole : Reader Role := fun bytes => do
  let (name, rest) ← choice (Role.all.map Role.name) bytes
  match Role.ofName? name with
  | some role => .ok (role, rest)
  | none => .error (.unknownVariant name (Role.all.map Role.name))

def record : Record Draft Message where
  expected := "struct ChatMessage"
  isOpenEnded := false
  fields := [
    ⟨"role", (·.role.isSome), fun d bytes => do
      let (x, rest) ← readRole bytes
      .ok ({ d with role := some x }, rest)⟩,
    ⟨"content", (·.content.isSome), fun d bytes => do
      let (x, rest) ← text bytes
      .ok ({ d with content := some x }, rest)⟩]
  finish d :=
    match d.role, d.content with
    | some role, some content => .ok ⟨role, content⟩
    | none, _ => .error (.missingField "role")
    | _, none => .error (.missingField "content")

def read : Reader Message := record.read ⟨none, none⟩

end Message

end ChatRelay.Chat
