import ChatRelay.Json.Basic
import ChatRelay.Number.Shortest

/-!
The compact text of a JSON value: no blanks, and only what must be escaped is escaped.
-/

namespace ChatRelay.Json

def hexDigit (n : Nat) : Char :=
  Nat.digitChar n

/-- A character inside a string: quotes, backslashes and controls are escaped. -/
def escape (c : Char) : List Char :=
  if c = '"' then ['\\', '"']
  else if c = '\\' then ['\\', '\\']
  else if c = '\n' then ['\\', 'n']
  else if c = '\r' then ['\\', 'r']
  else if c = '\t' then ['\\', 't']
  else if c.toNat = 8 then ['\\', 'b']
  else if c.toNat = 12 then ['\\', 'f']
  else if c.toNat < 0x20 then
    ['\\', 'u', '0', '0', hexDigit (c.toNat / 16), hexDigit (c.toNat % 16)]
  else [c]

def quote (s : String) : List Char :=
  '"' :: s.toList.flatMap escape ++ ['"']

def Number.write : Number → List Char
  | .int n => (toString n).toList
  | .real x => x.write .json

mutual

def write : Json → List Char
  | null => ['n', 'u', 'l', 'l']
  | bool true => ['t', 'r', 'u', 'e']
  | bool false => ['f', 'a', 'l', 's', 'e']
  | number n => n.write
  | string s => quote s
  | array items => '[' :: writeItems items ++ [']']
  | object members => '\x7b' :: writeMembers members ++ ['\x7d']

def writeItems : List Json → List Char
  | [] => []
  | [item] => item.write
  | item :: items => item.write ++ ',' :: writeItems items

def writeMembers : List (String × Json) → List Char
  | [] => []
  | [(key, value)] => quote key ++ ':' :: value.write
  | (key, value) :: members => quote key ++ ':' :: value.write ++ ',' :: writeMembers members

end

def compact (value : Json) : String :=
  String.ofList value.write

def writeRecord (fields : List (String × List Char)) : List Char :=
  '\x7b' :: (List.intercalate [',']
    (fields.map fun (key, text) => quote key ++ ':' :: text)) ++ ['\x7d']

end ChatRelay.Json
