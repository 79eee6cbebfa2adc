import ChatRelay.Text.Blank

/-!
The lines of a backend's event stream and what they mean.
-/

namespace ChatRelay.Stream

/-- A message of the backend: a data payload, a whole progress line, or the end marker. -/
inductive Frame where
  | data (payload : String)
  | progress (line : String)
  | done
  deriving DecidableEq, Repr

def dataStart : List Char := "data: ".toList

def progressStart : List Char := "intermediate_data: ".toList

def sentinels : List (List Char) := ["[DONE]".toList, "DONE".toList]

/-- The message on a line; lines that begin otherwise carry none. -/
def Frame.ofLine? (line : List Char) : Option Frame :=
  match List.isPrefixOf? dataStart line with
  | some rest =>
    -- Blanks around the payload are not part of it, nor are they part of an end marker.
    let payload := Text.trim rest
    if payload ∈ sentinels then some .done else some (.data (String.ofList payload))
  | none =>
    -- The start of a progress line stays on it: whoever renders the step takes it off.
    if progressStart.isPrefixOf line then some (.progress (String.ofList line)) else none

def dropReturns (line : List Char) : List Char :=
  Text.dropEnd (· == '\r') line

end ChatRelay.Stream
