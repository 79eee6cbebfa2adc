import ChatRelay.Stream.Frame
import ChatRelay.Text.Utf8

/-!
The incremental parser of an event stream. Between chunks it holds at most one unfinished line
and, after it, the beginning of one unfinished character.
-/

namespace ChatRelay.Stream

/-- What a parser is doing. Between two calls it waits for a chunk or is done. -/
inductive Phase where
  | awaitingChunk
  | splittingBuffer
  | dispatchingLine
  | done
  deriving DecidableEq, Repr, Inhabited

/-- A parser: its phase, the decoded text not yet read as lines, and the undecoded tail. -/
structure Parser where
  phase : Phase
  buffer : List Char
  tail : Utf8.State
  deriving DecidableEq, Repr, Inhabited

/-- The whole lines of a text, and what follows its last line feed. -/
def cutLines : List Char → List (List Char) × List Char
  | [] => ([], [])
  | c :: rest =>
    let (lines, last) := cutLines rest
    if c = '\n' then ([] :: lines, last)
    else match lines with
      | [] => ([], c :: last)
      | line :: lines => ((c :: line) :: lines, last)

namespace Parser

def fresh : Parser := ⟨.awaitingChunk, [], none⟩

def isDone (p : Parser) : Bool := p.phase == .done

def buffered (p : Parser) : Nat :=
  (Utf8.encode p.buffer).length + p.tail.held.length

/-- The stream has ended; an unfinished line is dropped. -/
def finish (_ : Parser) : Parser := ⟨.done, [], none⟩

/-- The client has gone away; what is held is dropped. -/
def cancel (p : Parser) : Parser := p.finish

def decode (p : Parser) (chunk : List UInt8) : Parser :=
  let (pieces, tail) := Utf8.run p.tail chunk
  ⟨.splittingBuffer, p.buffer ++ Utf8.replace pieces, tail⟩

def split (p : Parser) : List (List Char) × Parser :=
  match cutLines p.buffer with
  -- Without a line feed the whole text stays where it is.
  | ([], _) => ([], { p with phase := .awaitingChunk })
  | (lines, last) => (lines, { p with phase := .dispatchingLine, buffer := last })

def dispatch (p : Parser) : List (List Char) → List Frame × Parser
  | [] => ([], { p with phase := .awaitingChunk })
  | line :: lines =>
    match Frame.ofLine? (dropReturns line) with
    | none => p.dispatch lines
    -- The end marker is the last frame, whatever lines the chunk holds after it.
    | some .done => ([.done], p.finish)
    | some frame =>
      let (frames, p) := p.dispatch lines
      (frame :: frames, p)

def feed (p : Parser) (chunk : List UInt8) : List Frame × Parser :=
  if p.isDone then ([], p)
  else
    let (lines, p) := (p.decode chunk).split
    p.dispatch lines

def feedAll (p : Parser) : List (List UInt8) → List Frame × Parser
  | [] => ([], p)
  | chunk :: chunks =>
    let (frames, p) := p.feed chunk
    let (more, p) := p.feedAll chunks
    (frames ++ more, p)

end Parser

end ChatRelay.Stream
