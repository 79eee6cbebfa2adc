import ChatRelay.Number.Double

/-!
Reading whole and decimal numerals from text.
-/

namespace ChatRelay.Number

def digit? (c : Char) : Option Nat :=
  if '0' ≤ c ∧ c ≤ '9' then some (c.toNat - '0'.toNat) else none

/-- The number that digits write, most significant first; other characters count as zero. -/
def ofDigits (cs : List Char) : Nat :=
  cs.foldl (fun n c => 10 * n + (digit? c).getD 0) 0

def takeDigits (cs : List Char) : List Char × List Char :=
  cs.span (·.isDigit)

/-- Splits off a sign; the first component says whether it is a minus. -/
def takeSign : List Char → Bool × List Char
  | '-' :: rest => (true, rest)
  | '+' :: rest => (false, rest)
  | cs => (false, cs)

/-- A natural number: one digit or more and nothing else. -/
def readNat? (cs : List Char) : Option Nat :=
  if cs.isEmpty || !cs.all (·.isDigit) then none else some (ofDigits cs)

def fitsInt64 (n : Int) : Bool := -0x8000000000000000 ≤ n && n < 0x8000000000000000

def readInt64? (cs : List Char) : Option Int := do
  let (negative, rest) := takeSign cs
  let n ← readNat? rest
  let value : Int := if negative then -n else n
  if fitsInt64 value then some value else none

/-- The exponent part of a decimal numeral: nothing, or `e`, a sign and digits. -/
def readExponent? : List Char → Option Int
  | [] => some 0
  | e :: rest =>
    if e == 'e' || e == 'E' then do
      let (negative, digits) := takeSign rest
      let n ← readNat? digits
      some (if negative then -n else n)
    else none

/-- An unsigned decimal numeral as digits and a power of ten. Digits may be missing on one side
of the point, not on both. -/
def readDecimal? (cs : List Char) : Option (Nat × Int) := do
  let (whole, rest) := takeDigits cs
  let (fraction, rest) := match rest with
    | '.' :: rest => takeDigits rest
    | _ => ([], rest)
  if whole.isEmpty && fraction.isEmpty then none
  else
    let exponent ← readExponent? rest
    some (ofDigits (whole ++ fraction), exponent - fraction.length)

/-- A double-precision numeral, with the names of infinity and of the value that is no number in
any case. A decimal beyond all doubles is infinite. -/
def readExtended? (cs : List Char) : Option Extended :=
  let (negative, rest) := takeSign cs
  let name := rest.map Char.toLower
  if name = ['i', 'n', 'f'] || name = ['i', 'n', 'f', 'i', 'n', 'i', 't', 'y'] then
    some (.infinite negative)
  else if name = ['n', 'a', 'n'] then some .notANumber
  else (readDecimal? rest).map fun (digits, exponent) =>
    match Double.ofDecimal negative digits exponent with
    | some x => .finite x
    | none => .infinite negative

end ChatRelay.Number
