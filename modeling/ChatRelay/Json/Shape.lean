import ChatRelay.Json.Reader

/-!
Reading JSON of an expected shape. The shape is checked as the text is read, so that of several
faults the first one in the text is reported; what a shape does not ask for is passed over
unread.
-/

namespace ChatRelay.Json.Read

/-- The fault of a value whose type is not the expected one; a value that is not well formed is
the greater fault. -/
def mismatch (expected : String) (bytes : List UInt8) : Fault :=
  let found : Except Fault Found :=
    match bytes with
    | [] => .error .endInValue
    | b :: rest =>
      if b = byte 'n' then (name ['u', 'l', 'l'] rest).map fun _ => .null
      else if b = byte 't' then (name ['r', 'u', 'e'] rest).map fun _ => .bool true
      else if b = byte 'f' then (name ['a', 'l', 's', 'e'] rest).map fun _ => .bool false
      else if b = byte '-' then (number true rest).map fun (n, _) => .number n
      else if isDigit b then (number false bytes).map fun (n, _) => .number n
      else if b = byte '"' then (string rest).map fun (s, _) => .string s
      else if b = byte '[' then .ok .array
      else if b = byte '{' then .ok .object
      else .error .expectedValue
  match found with
  | .ok found => .invalidType found expected
  | .error fault => fault

def textAs (expected : String) : Reader String := fun bytes =>
  match skipBlanks bytes with
  | [] => .error .endInValue
  | b :: rest => if b = byte '"' then string rest else .error (mismatch expected (b :: rest))

def text : Reader String := textAs "a string"

def boolean : Reader Bool := fun bytes =>
  match skipBlanks bytes with
  | [] => .error .endInValue
  | b :: rest =>
    if b = byte 't' then (name ['r', 'u', 'e'] rest).map fun ((), rest) => (true, rest)
    else if b = byte 'f' then (name ['a', 'l', 's', 'e'] rest).map fun ((), rest) => (false, rest)
    else .error (mismatch "a boolean" (b :: rest))

def unit : Reader Unit := fun bytes =>
  match skipBlanks bytes with
  | [] => .error .endInValue
  | b :: rest =>
    if b = byte 'n' then name ['u', 'l', 'l'] rest else .error (mismatch "unit" (b :: rest))

def optional (reader : Reader α) : Reader (Option α) := fun bytes =>
  match skipBlanks bytes with
  | b :: rest =>
    if b = byte 'n' then (name ['u', 'l', 'l'] rest).map fun ((), rest) => (none, rest)
    else (reader (b :: rest)).map fun (x, rest) => (some x, rest)
  | [] => (reader []).map fun (x, rest) => (some x, rest)

def listOf (item : Reader α) : Reader (List α) := fun bytes =>
  match skipBlanks bytes with
  | [] => .error .endInValue
  | b :: rest =>
    if b = byte '[' then items item bytes.length true rest
    else .error (mismatch "a sequence" (b :: rest))

def known (names : List String) : Reader String := fun bytes => do
  let (found, rest) ← textAs "variant identifier" bytes
  if found ∈ names then .ok (found, rest) else .error (.unknownVariant found names)

/-- A choice among known names: the name, or an object with the name as its only key and null
under it. -/
def choice (names : List String) : Reader String := fun bytes =>
  match skipBlanks bytes with
  | [] => .error .endInValue
  | b :: rest =>
    if b = byte '"' then known names (b :: rest)
    else if b = byte '{' then do
      let (found, rest) ← known names rest
      let ((), rest) ← colon rest
      let ((), rest) ← unit rest
      match skipBlanks rest with
      | [] => .error .endInObject
      | c :: rest => if c = byte '}' then .ok (found, rest) else .error .expectedValue
    else .error .expectedValue

/-- A field of a record that is filled in as it is read. -/
structure Field (σ : Type) where
  name : String
  isFilled : σ → Bool
  fill : σ → Reader σ

/-- A record: its name, its fields in their order, and the result of a filled record. A record
read from a list may end early if `isOpenEnded`. -/
structure Record (σ α : Type) where
  expected : String
  fields : List (Field σ)
  isOpenEnded : Bool
  finish : σ → Except Fault α

namespace Record

/-- Reads members into a record. A field may come once; members of other names are passed
over. -/
def fromMembers (r : Record σ α) : (fuel : Nat) → (first : Bool) → σ → Reader σ
  | 0, _, _, _ => .error .endInObject
  | fuel + 1, first, filled, bytes => do
    let (more, bytes) ← anotherMember first bytes
    if !more then .ok (filled, bytes)
    else
      let (key, bytes) ← string bytes
      match r.fields.find? (·.name == key) with
      | none =>
        let ((), bytes) ← colon bytes
        let ((), bytes) ← skipValue bytes
        r.fromMembers fuel false filled bytes
      | some field =>
        if field.isFilled filled then .error (.duplicateField key)
        else
          let ((), bytes) ← colon bytes
          let (filled, bytes) ← field.fill filled bytes
          r.fromMembers fuel false filled bytes

def fromItems (r : Record σ α) : List (Field σ) → (index : Nat) → σ → Reader σ
  | [], _, filled, bytes => .ok (filled, bytes)
  | field :: fields, index, filled, bytes => do
    let (more, bytes) ← anotherItem (index == 0) bytes
    if more then
      let (filled, bytes) ← field.fill filled bytes
      r.fromItems fields (index + 1) filled bytes
    else if r.isOpenEnded then .ok (filled, bytes)
    else .error (.invalidLength index
      (r.expected ++ " with " ++ toString r.fields.length ++ " elements"))

/-- A record, from an object by name or from a list by position. -/
def read (r : Record σ α) (blank : σ) : Reader α := fun bytes =>
  match skipBlanks bytes with
  | [] => .error .endInValue
  | b :: rest =>
    if b = byte '[' then do
      let (filled, rest) ← r.fromItems r.fields 0 blank rest
      let x ← r.finish filled
      let ((), rest) ← closeList rest
      .ok (x, rest)
    else if b = byte '{' then do
      let (filled, rest) ← r.fromMembers bytes.length true blank rest
      let x ← r.finish filled
      let ((), rest) ← closeObject rest
      .ok (x, rest)
    else .error (mismatch r.expected (b :: rest))

end Record

end ChatRelay.Json.Read
