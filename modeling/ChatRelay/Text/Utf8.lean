/-!
UTF-8 as a one-byte-at-a-time decoder. A sequence that cannot be completed is one malformed
piece, as long as it could be; the byte that breaks it starts afresh.
-/

namespace ChatRelay.Utf8

def encode (cs : List Char) : List UInt8 :=
  cs.flatMap String.utf8EncodeChar

def bytes (s : String) : List UInt8 :=
  encode s.toList

/-- A sequence that has begun and lacks `more` bytes, the next of them in `low … high`. -/
structure Open where
  held : List UInt8
  more : Nat
  low : UInt8
  high : UInt8
  value : Nat
  deriving DecidableEq, Repr, Inhabited

/-- What the decoder carries between bytes: nothing, or an open sequence. -/
abbrev State := Option Open

/-- The sequence that a leading byte opens. -/
def open? (b : UInt8) : Option Open :=
  -- The bounds on the second byte exclude overlong forms, surrogates and values past the last
  -- code point; so do the leading bytes that open nothing.
  if b < 0xC2 then none
  else if b < 0xE0 then some ⟨[b], 1, 0x80, 0xBF, b.toNat - 0xC0⟩
  else if b < 0xF0 then
    some ⟨[b], 2, if b = 0xE0 then 0xA0 else 0x80, if b = 0xED then 0x9F else 0xBF, b.toNat - 0xE0⟩
  else if b < 0xF5 then
    some ⟨[b], 3, if b = 0xF0 then 0x90 else 0x80, if b = 0xF4 then 0x8F else 0xBF, b.toNat - 0xF0⟩
  else none

abbrev Piece := Option Char

def start (b : UInt8) : List Piece × State :=
  if b < 0x80 then ([some (Char.ofNat b.toNat)], none)
  else match open? b with
    | some o => ([], some o)
    | none => ([none], none)

/-- One byte: it extends or completes the open sequence, or breaks it. -/
def step : State → UInt8 → List Piece × State
  | none, b => start b
  | some o, b =>
    if o.low ≤ b ∧ b ≤ o.high then
      let value := o.value * 64 + (b.toNat - 0x80)
      if o.more ≤ 1 then ([some (Char.ofNat value)], none)
      else ([], some ⟨o.held ++ [b], o.more - 1, 0x80, 0xBF, value⟩)
    else
      -- What is open was malformed, and the byte that shows it belongs to what comes next.
      let (pieces, state) := start b
      (none :: pieces, state)

/-- Decoding from a state: the pieces that the bytes complete and the state after them. -/
def run : State → List UInt8 → List Piece × State
  | state, [] => ([], state)
  | state, b :: rest =>
    let (pieces, next) := step state b
    let (more, last) := run next rest
    (pieces ++ more, last)

def State.held : State → List UInt8
  | none => []
  | some o => o.held

def replace (pieces : List Piece) : List Char :=
  pieces.map (·.getD '\uFFFD')

/-- Decodes all bytes, an unfinished last sequence being malformed too. -/
def decodeLossy (bytes : List UInt8) : List Char :=
  let (pieces, state) := run none bytes
  replace pieces ++ if state.isSome then ['\uFFFD'] else []

def decode? (bytes : List UInt8) : Option (List Char) :=
  let (pieces, state) := run none bytes
  if state.isSome then none else pieces.mapM id

/-- Decoding piecewise is decoding at once: only the state is carried across a cut. -/
theorem run_append (state : State) (a b : List UInt8) :
    run state (a ++ b) =
      ((run state a).1 ++ (run (run state a).2 b).1, (run (run state a).2 b).2) := by
  induction a generalizing state with
  | nil => simp [run]
  | cons x a ih => simp [run, ih]

end ChatRelay.Utf8
