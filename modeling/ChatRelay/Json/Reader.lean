import ChatRelay.Json.Basic
import ChatRelay.Text.Utf8

/-!
Reading JSON texts from bytes. A reader takes bytes and gives a result and the bytes after it;
nesting is bounded by an explicit depth.
-/

namespace ChatRelay.Json

/-- What a shape that does not fit found in place of what it expected. -/
inductive Found where
  | null
  | bool (b : Bool)
  | number (n : Json.Number)
  | string (s : String)
  | array
  | object
  deriving DecidableEq, Repr

/-- Why a text is not JSON, or not JSON of the expected shape. -/
inductive Fault where
  | endInValue
  | endInList
  | endInObject
  | endInString
  | expectedColon
  | expectedListCommaOrEnd
  | expectedObjectCommaOrEnd
  | expectedName
  | expectedValue
  | invalidEscape
  | invalidNumber
  | numberOutOfRange
  | invalidCodePoint
  | controlCharacter
  | keyNotString
  | loneSurrogate
  | unfinishedSurrogatePair
  | trailingComma
  | trailingCharacters
  | tooDeep
  | invalidType (found : Found) (expected : String)
  | invalidLength (length : Nat) (expected : String)
  | missingField (name : String)
  | duplicateField (name : String)
  | unknownVariant (found : String) (known : List String)
  deriving DecidableEq, Repr

namespace Read

abbrev Reader (α : Type) := List UInt8 → Except Fault (α × List UInt8)

def byte (c : Char) : UInt8 := c.toNat.toUInt8

def isBlank (b : UInt8) : Bool :=
  b == 0x20 || b == 0x09 || b == 0x0A || b == 0x0D

def skipBlanks (bytes : List UInt8) : List UInt8 :=
  bytes.dropWhile isBlank

def name : List Char → Reader Unit
  | [], bytes => .ok ((), bytes)
  | _ :: _, [] => .error .endInValue
  | c :: cs, b :: rest => if b = byte c then name cs rest else .error .expectedName

/-! ### Numbers -/

def isDigit (b : UInt8) : Bool := 0x30 ≤ b && b ≤ 0x39

def digitValue (b : UInt8) : Nat := b.toNat - 0x30

def significandLimit : Nat := UInt64.size

/-- Takes digits into a significand until one would not fit; gives the significand, how many
were taken, and the digits left over. -/
def significand (start : Nat) : List UInt8 → Nat × Nat × List UInt8
  | [] => (start, 0, [])
  | b :: rest =>
    if isDigit b && start * 10 + digitValue b < significandLimit then
      let (n, taken, left) := significand (start * 10 + digitValue b) rest
      (n, taken + 1, left)
    else (start, 0, b :: rest)

/-- The exponent of the greatest power of ten that is below some double. -/
def greatestTens : Nat := 308

/-- Scales by a power of ten in one rounded step, after steps of the greatest power for what lies
below the least one that a double holds. -/
def scale (x : Number.Double) (exponent : Int) : Option Number.Double :=
  if x.isZero then some x
  else if greatestTens < exponent then none
  -- The power of ten is a double itself, and multiplying or dividing by it rounds once more.
  else if 0 ≤ exponent then (Number.Double.ofNat (Nat.pow 10 exponent.toNat)).bind x.mul
  else lower x 3 exponent
where
  lower (x : Number.Double) : Nat → Int → Option Number.Double
    | 0, _ => some (.zero false)
    | steps + 1, exponent =>
      if x.isZero then some x
      else if -greatestTens ≤ exponent then
        (Number.Double.ofNat (Nat.pow 10 exponent.natAbs)).bind x.div
      else do
        let y ← (Number.Double.ofNat (Nat.pow 10 greatestTens)).bind x.div
        lower y steps (exponent + greatestTens)

def real (negative : Bool) (significand : Nat) (exponent : Int) : Except Fault Json.Number :=
  match (Number.Double.ofNat significand).bind (scale · exponent) with
  | some x => .ok (.real (x.withSign negative))
  | none => .error .numberOutOfRange

def exponentDigits : Reader Nat
  | [] => .error .endInValue
  | b :: rest =>
    if isDigit b then
      let digits := rest.takeWhile isDigit
      .ok ((b :: digits).foldl (fun n d => 10 * n + digitValue d) 0, rest.dropWhile isDigit)
    else .error .invalidNumber

def exponentLimit : Nat := 0x80000000

/-- An exponent after its letter. One beyond all bounds makes the number zero or out of
range. -/
def exponent (negative : Bool) (significand : Nat) (shift : Int) :
    Reader Json.Number := fun bytes =>
  let (minus, bytes) := match bytes with
    | b :: rest => if b = byte '+' then (false, rest) else if b = byte '-' then (true, rest)
        else (false, bytes)
    | [] => (false, [])
  do
    let (n, rest) ← exponentDigits bytes
    -- So large an exponent leaves nothing of the number, or makes it greater than all doubles.
    if exponentLimit ≤ n then
      if significand ≠ 0 && !minus then .error .numberOutOfRange
      else .ok (.real (.zero negative), rest)
    else
      let value ← real negative significand (if minus then shift - n else shift + n)
      .ok (value, rest)

/-- What may follow a significand with a fraction: an exponent or the end of the number. -/
def afterFraction (negative : Bool) (significand : Nat) (shift : Int) : Reader Json.Number
  | b :: rest =>
    if b = byte 'e' || b = byte 'E' then exponent negative significand shift rest
    else do .ok (← real negative significand shift, b :: rest)
  | [] => do .ok (← real negative significand shift, [])

/-- A fraction after its point. Digits that no longer fit the significand are dropped. -/
def fraction (negative : Bool) (start : Nat) (shift : Int) : Reader Json.Number := fun bytes =>
  let (n, taken, left) := significand start bytes
  match left with
  | b :: _ =>
    if isDigit b then afterFraction negative n (shift - taken) (left.dropWhile isDigit)
    else if taken = 0 then .error .invalidNumber
    else afterFraction negative n (shift - taken) left
  | [] => if taken = 0 then .error .endInValue else afterFraction negative n (shift - taken) []

/-- The whole number of a sign and a significand: an integer if it is one of 64 bits, signed or
unsigned; else, and for a negative zero, a double. -/
def whole (negative : Bool) (significand : Nat) : Except Fault Json.Number :=
  if !negative then .ok (.int significand)
  else if significand = 0 || 0x8000000000000000 < significand then real true significand 0
  else .ok (.int (-significand))

/-- What may follow the whole part: a fraction, an exponent, or the end of the number. -/
def afterWhole (negative : Bool) (significand : Nat) (shift : Int) (exact : Bool) :
    Reader Json.Number
  | b :: rest =>
    if b = byte '.' then fraction negative significand shift rest
    else if b = byte 'e' || b = byte 'E' then exponent negative significand shift rest
    else do
      let n ← if exact then whole negative significand else real negative significand shift
      .ok (n, b :: rest)
  | [] => do
    let n ← if exact then whole negative significand else real negative significand shift
    .ok (n, [])

def number (negative : Bool) : Reader Json.Number
  | [] => .error .endInValue
  | b :: rest =>
    if b = byte '0' then
      if rest.head?.any isDigit then .error .invalidNumber else afterWhole negative 0 0 true rest
    else if isDigit b then
      let (n, _, left) := significand (digitValue b) rest
      -- Digits that no longer fit count as a power of ten, and the number is no integer then.
      if left.head?.any isDigit then
        afterWhole negative n (left.takeWhile isDigit).length false (left.dropWhile isDigit)
      else afterWhole negative n 0 true left
    else .error .invalidNumber

/-! ### Strings -/

def hex4? (a b c d : UInt8) : Option Nat := do
  let digit (x : UInt8) : Option Nat :=
    if isDigit x then some (digitValue x)
    else if 0x41 ≤ x && x ≤ 0x46 then some (x.toNat - 0x37)
    else if 0x61 ≤ x && x ≤ 0x66 then some (x.toNat - 0x57)
    else none
  some ((((← digit a) * 16 + (← digit b)) * 16 + (← digit c)) * 16 + (← digit d))

def escaped? (b : UInt8) : Option UInt8 :=
  if b = byte '"' then some 0x22
  else if b = byte '\\' then some 0x5C
  else if b = byte '/' then some 0x2F
  else if b = byte 'b' then some 0x08
  else if b = byte 'f' then some 0x0C
  else if b = byte 'n' then some 0x0A
  else if b = byte 'r' then some 0x0D
  else if b = byte 't' then some 0x09
  else none

def prepend (front : List UInt8) (r : Except Fault (List UInt8 × List UInt8)) :
    Except Fault (List UInt8 × List UInt8) :=
  r.map fun (bytes, rest) => (front ++ bytes, rest)

/-- The bytes of a string up to its closing quote, escapes resolved. -/
def stringBytes : Reader (List UInt8)
  | [] => .error .endInString
  | b :: rest =>
    if b = byte '"' then .ok ([], rest)
    else if b = byte '\\' then
      match rest with
      | [] => .error .endInString
      | e :: rest =>
        if e = byte 'u' then
          match rest with
          | h1 :: h2 :: h3 :: h4 :: rest =>
            match hex4? h1 h2 h3 h4 with
            | none => .error .invalidEscape
            | some n =>
              -- Surrogates must come in pairs, the high one first.
              if 0xDC00 ≤ n ∧ n ≤ 0xDFFF then .error .loneSurrogate
              else if n < 0xD800 ∨ 0xDBFF < n then
                prepend (String.utf8EncodeChar (Char.ofNat n)) (stringBytes rest)
              else match rest with
                | [] => .error .endInString
                | [s] => if s = byte '\\' then .error .endInString
                    else .error .unfinishedSurrogatePair
                | s :: u :: rest =>
                  if s ≠ byte '\\' ∨ u ≠ byte 'u' then .error .unfinishedSurrogatePair
                  else match rest with
                    | l1 :: l2 :: l3 :: l4 :: rest =>
                      match hex4? l1 l2 l3 l4 with
                      | none => .error .invalidEscape
                      | some m =>
                        if m < 0xDC00 ∨ 0xDFFF < m then .error .loneSurrogate
                        else prepend
                          (String.utf8EncodeChar
                            (Char.ofNat (0x10000 + (n - 0xD800) * 0x400 + (m - 0xDC00))))
                          (stringBytes rest)
                    | _ => .error .endInString
          | _ => .error .endInString
        else match escaped? e with
          | some x => prepend [x] (stringBytes rest)
          | none => .error .invalidEscape
    else if b < 0x20 then .error .controlCharacter
    else prepend [b] (stringBytes rest)

def string : Reader String := fun bytes => do
  let (content, rest) ← stringBytes bytes
  match Utf8.decode? content with
  | some cs => .ok (String.ofList cs, rest)
  | none => .error .invalidCodePoint

/-! ### Lists and objects -/

/-- Whether another item follows in a list; a comma before it is passed over. -/
def anotherItem (first : Bool) : Reader Bool := fun bytes =>
  match skipBlanks bytes with
  | [] => .error .endInList
  | b :: rest =>
    if b = byte ']' then .ok (false, b :: rest)
    else if first then .ok (true, b :: rest)
    else if b = byte ',' then
      match skipBlanks rest with
      | [] => .error .endInValue
      | c :: rest => if c = byte ']' then .error .trailingComma else .ok (true, c :: rest)
    else .error .expectedListCommaOrEnd

/-- Whether another member follows in an object; a comma before it and the opening quote of its
key are passed over. -/
def anotherMember (first : Bool) : Reader Bool := fun bytes =>
  match skipBlanks bytes with
  | [] => .error .endInObject
  | b :: rest =>
    if b = byte '}' then .ok (false, b :: rest)
    else if first then
      if b = byte '"' then .ok (true, rest) else .error .keyNotString
    else if b = byte ',' then
      match skipBlanks rest with
      | [] => .error .endInValue
      | c :: rest =>
        if c = byte '"' then .ok (true, rest)
        else if c = byte '}' then .error .trailingComma
        else .error .keyNotString
    else .error .expectedObjectCommaOrEnd

def colon : Reader Unit := fun bytes =>
  match skipBlanks bytes with
  | [] => .error .endInObject
  | b :: rest => if b = byte ':' then .ok ((), rest) else .error .expectedColon

def closeList : Reader Unit := fun bytes =>
  match skipBlanks bytes with
  | [] => .error .endInList
  | b :: rest =>
    if b = byte ']' then .ok ((), rest)
    else if b = byte ',' ∧ (skipBlanks rest).head? = some (byte ']') then .error .trailingComma
    else .error .trailingCharacters

def closeObject : Reader Unit := fun bytes =>
  match skipBlanks bytes with
  | [] => .error .endInObject
  | b :: rest =>
    if b = byte '}' then .ok ((), rest)
    else if b = byte ',' then .error .trailingComma
    else .error .trailingCharacters

/-- The items of a list after its opening bracket, up to and with the closing one. -/
def items (item : Reader α) : (fuel : Nat) → (first : Bool) → Reader (List α)
  -- The fuel is the number of bytes left, of which each item takes one or more.
  | 0, _, _ => .error .endInList
  | fuel + 1, first, bytes => do
    let (more, bytes) ← anotherItem first bytes
    if more then
      let (x, bytes) ← item bytes
      let (xs, bytes) ← items item fuel false bytes
      .ok (x :: xs, bytes)
    else
      let ((), bytes) ← closeList bytes
      .ok ([], bytes)

/-- The members of an object after its opening brace, up to and with the closing one. -/
def members (value : Reader α) : (fuel : Nat) → (first : Bool) → Reader (List (String × α))
  | 0, _, _ => .error .endInObject
  | fuel + 1, first, bytes => do
    let (more, bytes) ← anotherMember first bytes
    if more then
      let (key, bytes) ← string bytes
      let ((), bytes) ← colon bytes
      let (x, bytes) ← value bytes
      let (xs, bytes) ← members value fuel false bytes
      .ok ((key, x) :: xs, bytes)
    else
      let ((), bytes) ← closeObject bytes
      .ok ([], bytes)

def depthLimit : Nat := 127

/-- A value in which `depth` more lists and objects may be opened inside one another. -/
def value (depth : Nat) : Reader Json := fun bytes =>
  match skipBlanks bytes with
  | [] => .error .endInValue
  | b :: rest =>
    if b = byte 'n' then (name ['u', 'l', 'l'] rest).map fun ((), rest) => (null, rest)
    else if b = byte 't' then (name ['r', 'u', 'e'] rest).map fun ((), rest) => (bool true, rest)
    else if b = byte 'f' then
      (name ['a', 'l', 's', 'e'] rest).map fun ((), rest) => (bool false, rest)
    else if b = byte '-' then (number true rest).map fun (n, rest) => (Json.number n, rest)
    else if isDigit b then (number false (b :: rest)).map fun (n, rest) => (Json.number n, rest)
    else if b = byte '"' then (string rest).map fun (s, rest) => (Json.string s, rest)
    -- The recursion is on the depth; the items of one list share what is left of it.
    else if b = byte '[' then
      match depth with
      | 0 => .error .tooDeep
      | inner + 1 =>
        (items (value inner) bytes.length true rest).map fun (xs, rest) => (array xs, rest)
    else if b = byte '{' then
      match depth with
      | 0 => .error .tooDeep
      | inner + 1 =>
        (members (value inner) bytes.length true rest).map fun (xs, rest) => (ofMembers xs, rest)
    else .error .expectedValue

/-- A whole text: what a reader reads, with nothing but blanks after it. -/
def entire (reader : Reader α) (bytes : List UInt8) : Except Fault α := do
  let (x, rest) ← reader bytes
  if (skipBlanks rest).isEmpty then .ok x else .error .trailingCharacters

/-! ### Values that are passed over -/

/-- Passes over a string after its opening quote; its escapes need not mean anything. -/
def skipString : Reader Unit
  | [] => .error .endInString
  | b :: rest =>
    if b = byte '"' then .ok ((), rest)
    else if b = byte '\\' then
      match rest with
      | [] => .error .endInString
      | e :: rest =>
        if e = byte 'u' then
          match rest with
          | h1 :: h2 :: h3 :: h4 :: rest =>
            if (hex4? h1 h2 h3 h4).isSome then skipString rest else .error .invalidEscape
          | _ => .error .endInString
        else if (escaped? e).isSome then skipString rest
        else .error .invalidEscape
    else if b < 0x20 then .error .controlCharacter
    else skipString rest

def skipExponent (bytes : List UInt8) : Except Fault (Unit × List UInt8) :=
  let bytes := match bytes with
    | b :: rest => if b = byte '+' || b = byte '-' then rest else bytes
    | [] => []
  if bytes.head?.any isDigit then .ok ((), bytes.dropWhile isDigit) else .error .invalidNumber

def skipNumber : Reader Unit
  | [] => .error .invalidNumber
  | b :: rest =>
    if !isDigit b || (b = byte '0' && rest.head?.any isDigit) then .error .invalidNumber
    else match rest.dropWhile isDigit with
      | c :: rest =>
        if c = byte '.' then
          if !rest.head?.any isDigit then .error .invalidNumber
          else match rest.dropWhile isDigit with
            | d :: rest => if d = byte 'e' || d = byte 'E' then skipExponent rest
                else .ok ((), d :: rest)
            | [] => .ok ((), [])
        else if c = byte 'e' || c = byte 'E' then skipExponent rest
        else .ok ((), c :: rest)
      | [] => .ok ((), [])

/-- A list or object that is being passed over. -/
inductive Bracket where
  | list
  | object
  deriving DecidableEq, Repr

/-- Passes over a key and its colon, the key's quote not yet read. -/
def skipKey : Reader Unit := fun bytes =>
  match skipBlanks bytes with
  | [] => .error .endInObject
  | b :: rest => if b = byte '"' then do colon (← skipString rest).2 else .error .keyNotString

/-- Passes over values, the open brackets around them given, until none is left open. `fresh`
says that nothing has yet been read in the innermost bracket, `value` that a value comes next. -/
def skipOpen : (fuel : Nat) → (isValue fresh : Bool) → List Bracket → List UInt8 →
    Except Fault (Unit × List UInt8)
  | 0, _, _, _, _ => .error .endInValue
  | _ + 1, false, _, [], bytes => .ok ((), bytes)
  | fuel + 1, false, fresh, bracket :: outer, bytes =>
    match skipBlanks bytes with
    | [] => .error (match bracket with | .list => .endInList | .object => .endInObject)
    | b :: rest =>
      if bracket = .list ∧ b = byte ']' ∨ bracket = .object ∧ b = byte '}' then
        skipOpen fuel false false outer rest
      else if !fresh && b ≠ byte ',' then
        .error (match bracket with
          | .list => .expectedListCommaOrEnd
          | .object => .expectedObjectCommaOrEnd)
      else
        let bytes := if fresh then b :: rest else rest
        match bracket with
        | .list => skipOpen fuel true false (bracket :: outer) bytes
        | .object => do
          let ((), bytes) ← skipKey bytes
          skipOpen fuel true false (bracket :: outer) bytes
  | fuel + 1, true, _, brackets, bytes =>
    match skipBlanks bytes with
    | [] => .error .endInValue
    | b :: rest =>
      let next (r : Except Fault (Unit × List UInt8)) := do
        skipOpen fuel false false brackets (← r).2
      if b = byte 'n' then next (name ['u', 'l', 'l'] rest)
      else if b = byte 't' then next (name ['r', 'u', 'e'] rest)
      else if b = byte 'f' then next (name ['a', 'l', 's', 'e'] rest)
      else if b = byte '-' then next (skipNumber rest)
      else if isDigit b then next (skipNumber (b :: rest))
      else if b = byte '"' then next (skipString rest)
      else if b = byte '[' then skipOpen fuel false true (.list :: brackets) rest
      else if b = byte '{' then skipOpen fuel false true (.object :: brackets) rest
      else .error .expectedValue

def skipValue : Reader Unit := fun bytes =>
  skipOpen (2 * bytes.length + 2) true false [] bytes

end Read

def parseBytes (bytes : List UInt8) : Except Fault Json :=
  Read.entire (Read.value Read.depthLimit) bytes

def parse (text : String) : Except Fault Json :=
  parseBytes (Utf8.bytes text)

def parse? (text : String) : Option Json :=
  (parse text).toOption

end ChatRelay.Json
