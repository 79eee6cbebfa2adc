import ChatRelay.Json.Reader
import ChatRelay.Json.Printer
import ChatRelay.Stream.Frame

/-!
Progress steps: a backend's line about an intermediate step becomes a marker in the text that
the client reads.
-/

namespace ChatRelay.Stream

/-- A progress step with every field filled in. -/
structure Step where
  id : Json
  status : Json
  error : Json
  parentId : Json
  intermediateParentId : Json
  name : Json
  payload : Json
  timeStamp : Json
  deriving Inhabited

def openTag : List Char := "<intermediatestep>".toList

def closeTag : List Char := "</intermediatestep>".toList

def stepType : String := "system_intermediate"

namespace Step

def fieldOr (payload : Json) (key default : String) : Json :=
  match payload.get? key with
  | some value => if value.isTruthy then value else .string default
  | none => .string default

/-- The step of a payload, defaults standing for what it lacks or leaves empty. -/
def ofPayload (payload : Json) : Step where
  id := fieldOr payload "id" ""
  status := fieldOr payload "status" "in_progress"
  error := fieldOr payload "error" ""
  parentId := fieldOr payload "parent_id" "default"
  intermediateParentId := fieldOr payload "intermediate_parent_id" "default"
  name := fieldOr payload "name" "Step"
  payload := fieldOr payload "payload" "No details"
  timeStamp := fieldOr payload "time_stamp" "default"

/-- The step as a record; its name and payload are its content. -/
def write (s : Step) : List Char :=
  Json.writeRecord [
    ("id", s.id.write),
    ("status", s.status.write),
    ("error", s.error.write),
    ("type", Json.quote stepType),
    ("parent_id", s.parentId.write),
    ("intermediate_parent_id", s.intermediateParentId.write),
    ("content", Json.writeRecord [("name", s.name.write), ("payload", s.payload.write)]),
    ("time_stamp", s.timeStamp.write)]

def marker (s : Step) : String :=
  String.ofList (openTag ++ s.write ++ closeTag)

/-- The step on a progress line, if the rest of the line is JSON. -/
def ofLine? (line : String) : Option Step := do
  let rest ← List.isPrefixOf? progressStart line.toList
  let payload ← Json.parse? (String.ofList rest)
  some (ofPayload payload)

def markerOfLine? (line : String) : Option String :=
  (ofLine? line).map marker

end Step

end ChatRelay.Stream
