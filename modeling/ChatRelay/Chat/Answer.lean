import ChatRelay.Json.Reader
import ChatRelay.Json.Printer

/-!
Taking the answer out of a backend's JSON body. A body without one is the answer itself.
-/

namespace ChatRelay.Chat

/-- Where chat backends put their answer, the likeliest place first. -/
def chatPaths : List (List String) :=
  [["choices", "0", "message", "content"], ["message"], ["answer"], ["value"]]

def ragPaths : List (List String) :=
  [["state", "chat", "answer"], ["answer"]]

/-- A value as text: a string as it is, another value as JSON. -/
def render : Json → String
  | .string s => s
  | value => value.compact

/-- The member that a path names, a path of one key looking into objects only. -/
def candidate? (value : Json) : List String → Option Json
  | [key] => value.get? key
  | path => value.at? path

def firstTruthy? (paths : List (List String)) (value : Json) : Option Json :=
  (paths.filterMap (candidate? value)).find? (·.isTruthy)

def extract (paths : List (List String)) (body : String) : String :=
  match (Json.parse? body).bind (firstTruthy? paths) with
  | some value => render value
  | none => body

def chatAnswer (body : String) : String := extract chatPaths body

def ragAnswer (body : String) : String := extract ragPaths body

end ChatRelay.Chat
