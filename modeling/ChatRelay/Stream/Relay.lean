import ChatRelay.Stream.Parser
import ChatRelay.Stream.Step

/-!
What the client of a streaming endpoint is sent: one write for each line of the backend that
says something, up to the end marker, an error, a stall or the end of the stream.
-/

namespace ChatRelay.Stream

/-- What a stream's data lines carry: chat deltas, written as plain text, or generated values,
written as the whole payload. -/
inductive Flavor where
  | chat
  | generate
  deriving DecidableEq, Repr

/-- What the backend's side of a stream does next: it sends bytes, fails, falls silent or ends.
Without another event it has ended too. -/
inductive Event where
  | chunk (bytes : List UInt8)
  | failure
  | stall
  | ended
  deriving DecidableEq, Repr

/-- The bytes that arrive before a stream ends, fails or falls silent. -/
def arriving : List Event → List UInt8
  | .chunk bytes :: events => bytes ++ arriving events
  | _ => []

/-- Where the text of a chat message or of a delta stands in a payload. -/
def deltaPaths : List (List String) :=
  [["choices", "0", "message", "content"], ["choices", "0", "delta", "content"]]

/-- The text that a chat payload adds: the first of its places with a string that is not
empty. -/
def chatDelta? (payload : String) : Option String := do
  let value ← Json.parse? payload
  (deltaPaths.filterMap fun path => (value.at? path).bind Json.text?).find? (· != "")

def generatedChunk? (payload : String) : Option String := do
  let value ← Json.parse? payload
  match value.get? "value" with
  -- Not the value but the payload around it is passed on, as it was sent.
  | some (.string s) => if s = "" then none else some payload
  | _ => none

def render? (flavor : Flavor) : Frame → Option String
  | .data payload =>
    match flavor with
    | .chat => chatDelta? payload
    | .generate => generatedChunk? payload
  | .progress line => Step.markerOfLine? line
  | .done => none

/-- The writes that follow from the events, starting with a given parser. -/
def writesFrom (flavor : Flavor) (p : Parser) : List Event → List String
  | .chunk bytes :: events =>
    let (frames, p) := p.feed bytes
    -- The frames before an end marker are written, even if it came with them.
    frames.filterMap (render? flavor) ++ if p.isDone then [] else writesFrom flavor p events
  | _ => []

def writes (flavor : Flavor) (events : List Event) : List String :=
  writesFrom flavor .fresh events

end ChatRelay.Stream
