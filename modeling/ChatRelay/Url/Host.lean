import ChatRelay.Url.DomainName
import ChatRelay.Url.Percent

/-!
Hosts of URLs: domain names, IPv4 addresses in any of their spellings, and IPv6 addresses.
-/

namespace ChatRelay.Url

inductive Fault where
  | relativeWithoutBase
  | emptyHost
  | invalidPort
  | invalidIpv4
  | invalidIpv6
  | invalidDomain
  | invalidCharacter
  deriving DecidableEq, Repr

def Fault.message : Fault → String
  | .relativeWithoutBase => "relative URL without a base"
  | .emptyHost => "empty host"
  | .invalidPort => "invalid port number"
  | .invalidIpv4 => "invalid IPv4 address"
  | .invalidIpv6 => "invalid IPv6 address"
  | .invalidDomain => "invalid international domain name"
  | .invalidCharacter => "invalid domain character"

inductive Host where
  | domain (name : List Char)
  | ipv4 (address : Nat)
  | ipv6 (pieces : List Nat)
  deriving DecidableEq, Repr

def allDigits (base : Nat) (cs : List Char) : Bool :=
  cs.all fun c => ((hexValue? c.toNat.toUInt8).any fun d => c.toNat < 0x80 && d.toNat < base)

def digitsValue (base : Nat) (cs : List Char) : Nat :=
  cs.foldl (fun n c => n * base + ((hexValue? c.toNat.toUInt8).map UInt8.toNat).getD 0) 0

namespace Ipv4

/-- A part of an address: decimal, octal after a zero, or hexadecimal after `0x`. -/
def number? (cs : List Char) : Option Nat :=
  let (base, digits) := match cs with
    | '0' :: 'x' :: rest => (16, rest)
    | '0' :: 'X' :: rest => (16, rest)
    | '0' :: c :: rest => (8, c :: rest)
    | _ => (10, cs)
  if cs.isEmpty || !allDigits base digits then none else some (digitsValue base digits)

/-- Whether a name is meant as an address: its last part, an empty one after a final point
apart, is a number. -/
def isMeant (cs : List Char) : Bool :=
  let parts := (cs.splitOn '.').reverse
  let last := match parts with
    | [] :: rest => rest.head?
    | part :: _ => some part
    | [] => none
  match last with
  | some part => (!part.isEmpty && part.all (·.isDigit)) || (number? part).isSome
  | none => false

def parse? (cs : List Char) : Option Nat := do
  let parts := cs.splitOn '.'
  let parts := if parts.getLast? = some [] then parts.dropLast else parts
  -- All parts but the last are bytes; the last one fills the rest.
  if 4 < parts.length then none
  else
    let numbers ← parts.mapM number?
    let last ← numbers.getLast?
    let bytes := numbers.dropLast
    if Nat.pow 256 (4 - bytes.length) ≤ last || bytes.any (255 < ·) then none
    else some (bytes.foldl (fun n b => n * 256 + b) 0 * Nat.pow 256 (4 - bytes.length) + last)

def write (address : Nat) : List Char :=
  List.intercalate ['.'] ([24, 16, 8, 0].map fun shift =>
    Nat.toDigits 10 (address >>> shift % 256))

end Ipv4

namespace Ipv6

/-- A piece: one to four hexadecimal digits. -/
def piece? (cs : List Char) : Option Nat :=
  if cs.isEmpty || 4 < cs.length || !allDigits 16 cs then none else some (digitsValue 16 cs)

def byte? (cs : List Char) : Option Nat :=
  if cs.isEmpty || 3 < cs.length || !allDigits 10 cs then none
  else if 1 < cs.length && cs.head? = some '0' then none
  else if 255 < digitsValue 10 cs then none
  else some (digitsValue 10 cs)

def ending? (cs : List Char) : Option (List Nat) := do
  match ← (cs.splitOn '.').mapM byte? with
  | [a, b, c, d] => some [a * 256 + b, c * 256 + d]
  | _ => none

/-- Pieces with colons between them; the last may be an IPv4 ending if that is allowed. -/
def pieces? (mayEnd : Bool) : List (List Char) → Option (List Nat)
  | [] => some []
  | [last] =>
    match piece? last with
    | some n => some [n]
    | none => if mayEnd then ending? last else none
  | part :: parts => do some ((← piece? part) :: (← pieces? mayEnd parts))

def splitGap : List Char → Option (List Char × List Char)
  | [] => none
  | ':' :: ':' :: rest => some ([], rest)
  | c :: rest => (splitGap rest).map fun (before, after) => (c :: before, after)

def side? (mayEnd : Bool) (cs : List Char) : Option (List Nat) :=
  if cs.isEmpty then some [] else pieces? mayEnd (cs.splitOn ':')

/-- The eight pieces that a text writes, a double colon standing for one zero or more. -/
def parse? (cs : List Char) : Option (List Nat) := do
  match splitGap cs with
  | none =>
    let all ← pieces? true (cs.splitOn ':')
    if all.length = 8 then some all else none
  | some (before, after) =>
    let front ← side? false before
    let back ← side? true after
    if front.length + back.length ≤ 7 then
      some (front ++ List.replicate (8 - front.length - back.length) 0 ++ back)
    else none

def zeros (pieces : List Nat) : Nat := (pieces.takeWhile (· == 0)).length

/-- Where the first of the longest runs of zeros begins and how long it is. -/
def longestZeros : List Nat → Nat → Nat × Nat
  | [], index => (index, 0)
  | piece :: rest, index =>
    let here := zeros (piece :: rest)
    let (later, length) := longestZeros rest (index + 1)
    -- Of two runs that are equally long the first is taken.
    if length ≤ here then (index, here) else (later, length)

def writePieces (pieces : List Nat) : List Char :=
  List.intercalate [':'] (pieces.map (Nat.toDigits 16))

/-- The address between brackets, a run of two zeros or more written as a double colon. -/
def write (pieces : List Nat) : List Char :=
  let (start, length) := longestZeros pieces 0
  let body := if length < 2 then writePieces pieces
    else writePieces (pieces.take start) ++ [':', ':'] ++ writePieces (pieces.drop (start + length))
  '[' :: body ++ [']']

end Ipv6

namespace Host

def write : Host → List Char
  | .domain name => name
  | .ipv4 address => Ipv4.write address
  | .ipv6 pieces => Ipv6.write pieces

def bracketed? : List Char → Option (Except Fault Host)
  | '[' :: rest =>
    some (if rest.getLast? = some ']' then
      match Ipv6.parse? rest.dropLast with
      | some pieces => .ok (.ipv6 pieces)
      | none => .error .invalidIpv6
    else .error .invalidIpv6)
  | _ => none

def parse (cs : List Char) : Except Fault Host :=
  (bracketed? cs).getD <|
    match DomainName.toAscii? (percentDecode (Utf8.encode cs)) with
    | none => .error .invalidDomain
    | some name =>
      if name.isEmpty then .error .emptyHost
      else if Ipv4.isMeant name then
        match Ipv4.parse? name with
        | some address => .ok (.ipv4 address)
        | none => .error .invalidIpv4
      else .ok (.domain name)

def isRefused (c : Char) : Bool :=
  c.toNat == 0 || ['\t', '\n', '\r', ' ', '#', '/', ':', '<', '>', '?', '@', '[', '\\', ']', '^',
    '|'].contains c

/-- The host of a URL that is not special, kept as it is written. -/
def parseGeneral (cs : List Char) : Except Fault Host :=
  (bracketed? cs).getD <|
    if cs.any isRefused then .error .invalidCharacter
    else .ok (.domain (percentEncode controlSet cs))

end Host

end ChatRelay.Url
