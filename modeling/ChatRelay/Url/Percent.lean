import ChatRelay.Text.Utf8

/-!
Percent encoding. Each part of a URL has its set of characters that must be encoded; characters
outside ASCII always are.
-/

namespace ChatRelay.Url

abbrev EncodeSet := Char → Bool

def controlSet : EncodeSet := fun c => c.toNat < 0x20 || 0x7E < c.toNat

def fragmentSet : EncodeSet := fun c =>
  controlSet c || c == ' ' || c == '"' || c == '<' || c == '>' || c == '`'

def pathSet : EncodeSet := fun c =>
  fragmentSet c || c == '#' || c == '?' || c == '{' || c == '}'

def userSet : EncodeSet := fun c =>
  pathSet c || c == '/' || c == ':' || c == ';' || c == '=' || c == '@' || c == '[' || c == '\\' ||
    c == ']' || c == '^' || c == '|'

def querySet : EncodeSet := fun c =>
  controlSet c || c == ' ' || c == '"' || c == '#' || c == '<' || c == '>'

def specialQuerySet : EncodeSet := fun c => querySet c || c == '\''

def upperHex (n : Nat) : Char :=
  if n < 10 then Char.ofNat (n + '0'.toNat) else Char.ofNat (n - 10 + 'A'.toNat)

def percentByte (b : UInt8) : List Char :=
  ['%', upperHex (b.toNat / 16), upperHex (b.toNat % 16)]

def percentEncode (set : EncodeSet) (cs : List Char) : List Char :=
  cs.flatMap fun c => if set c then (String.utf8EncodeChar c).flatMap percentByte else [c]

def hexValue? (b : UInt8) : Option UInt8 :=
  if 0x30 ≤ b && b ≤ 0x39 then some (b - 0x30)
  else if 0x41 ≤ b && b ≤ 0x46 then some (b - 0x37)
  else if 0x61 ≤ b && b ≤ 0x66 then some (b - 0x57)
  else none

/-- Replaces each percent sign and two digits, from left to right, by its byte. -/
def percentDecode : List UInt8 → List UInt8
  | b :: h :: l :: rest =>
    if b = 0x25 then
      match hexValue? h, hexValue? l with
      | some x, some y => (x * 16 + y) :: percentDecode rest
      -- A percent sign that encodes nothing stands for itself.
      | _, _ => b :: percentDecode (h :: l :: rest)
    else b :: percentDecode (h :: l :: rest)
  | bytes => bytes

end ChatRelay.Url
