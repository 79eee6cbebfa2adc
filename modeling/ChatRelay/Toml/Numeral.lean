import ChatRelay.Toml.Basic
import ChatRelay.Toml.Quoted

/-!
The numbers of TOML, and its dates and times, of which only the form is checked.
-/

namespace ChatRelay.Toml.Read

/-- Digits of a class, single underscores between them; the underscores are dropped. -/
def digitsAfter (isDigit : Char → Bool) : Reader (List Char)
  | [] => some ([], [])
  | c :: rest =>
    if isDigit c then (digitsAfter isDigit rest).map fun (ds, rest) => (c :: ds, rest)
    else if c = '_' then
      if (rest.head?.any isDigit) then digitsAfter isDigit rest else none
    else some ([], c :: rest)

def digits (isDigit : Char → Bool) : Reader (List Char) := fun cs =>
  if cs.head?.any isDigit then digitsAfter isDigit cs else none

/-- A whole number with an optional sign: whether it is negative, and its digits, of which the
first is zero only if it is the only one. -/
def whole : Reader (Bool × List Char) := fun cs =>
  let (negative, cs) := Number.takeSign cs
  match cs with
  | '0' :: rest => some ((negative, ['0']), rest)
  | cs => (digits Char.isDigit cs).map fun (ds, rest) => ((negative, ds), rest)

def exponent : Reader Int
  | e :: rest => do
    if e != 'e' && e != 'E' then none
    let (negative, rest) := Number.takeSign rest
    let (ds, rest) ← digits Char.isDigit rest
    let n : Int := Number.ofDigits ds
    some (if negative then -n else n, rest)
  | [] => none

/-- The float of a decimal. One beyond all doubles is refused, a negative one is infinite. -/
def floatOf? (negative : Bool) (ds : List Char) (e : Int) : Option Number.Extended :=
  match Number.Double.ofDecimal negative (Number.ofDigits ds) e with
  | some x => some (.finite x)
  | none => if negative then some (.infinite true) else none

def decimalFloat : Reader Number.Extended := fun cs => do
  let ((negative, ds), rest) ← whole cs
  match rest with
  | '.' :: rest => do
    let (fraction, rest) ← digits Char.isDigit rest
    let (e, rest) := (exponent rest).getD (0, rest)
    let x ← floatOf? negative (ds ++ fraction) (e - fraction.length)
    some (x, rest)
  | rest => do
    let (e, rest) ← exponent rest
    let x ← floatOf? negative ds e
    some (x, rest)

def namedFloat : Reader Number.Extended := fun cs =>
  let (negative, cs) := Number.takeSign cs
  match cs with
  | 'i' :: 'n' :: 'f' :: rest => some (.infinite negative, rest)
  | 'n' :: 'a' :: 'n' :: rest => some (.notANumber, rest)
  | _ => none

def inBase (base : Nat) (cs : List Char) : Option (Nat × List Char) := do
  let isDigit c := (hexValue? c).any (· < base)
  let (ds, rest) ← digits isDigit cs
  some (ds.foldl (fun n c => base * n + (hexValue? c).getD 0) 0, rest)

def integer : Reader Int := fun cs => do
  let (n, rest) ← match cs with
    | '0' :: 'x' :: rest => (inBase 16 rest).map fun (n, rest) => ((n : Int), rest)
    | '0' :: 'o' :: rest => (inBase 8 rest).map fun (n, rest) => ((n : Int), rest)
    | '0' :: 'b' :: rest => (inBase 2 rest).map fun (n, rest) => ((n : Int), rest)
    | cs => (whole cs).map fun ((negative, ds), rest) =>
      let n : Int := Number.ofDigits ds
      (if negative then -n else n, rest)
  if Number.fitsInt64 n then some (n, rest) else none

/-! ### Dates and times -/

def field (count low high : Nat) : Reader Nat := fun cs =>
  let ds := cs.take count
  let n := Number.ofDigits ds
  if ds.length = count ∧ ds.all Char.isDigit ∧ low ≤ n ∧ n ≤ high then some (n, cs.drop count)
  else none

def mark (c : Char) : Reader Unit
  | d :: rest => if d = c then some ((), rest) else none
  | [] => none

def daysIn (year month : Nat) : Nat :=
  if month = 2 then
    if year % 4 = 0 ∧ (year % 100 ≠ 0 ∨ year % 400 = 0) then 29 else 28
  else if month ∈ [4, 6, 9, 11] then 30 else 31

def date : Reader Unit := fun cs => do
  let (year, cs) ← field 4 0 9999 cs
  let ((), cs) ← mark '-' cs
  let (month, cs) ← field 2 1 12 cs
  let ((), cs) ← mark '-' cs
  let (_, cs) ← field 2 1 (daysIn year month) cs
  some ((), cs)

/-- A time of day; a minute may have a leap second. -/
def time : Reader Unit := fun cs => do
  let (_, cs) ← field 2 0 23 cs
  let ((), cs) ← mark ':' cs
  let (_, cs) ← field 2 0 59 cs
  let ((), cs) ← mark ':' cs
  let (_, cs) ← field 2 0 60 cs
  match cs with
  | '.' :: rest =>
    let (ds, rest) := Number.takeDigits rest
    if ds.isEmpty then some ((), cs) else some ((), rest)
  | cs => some ((), cs)

def offset : Reader Unit
  | c :: rest =>
    if c = 'Z' ∨ c = 'z' then some ((), rest)
    else if c = '+' ∨ c = '-' then do
      let (_, rest) ← field 2 0 23 rest
      let ((), rest) ← mark ':' rest
      let (_, rest) ← field 2 0 59 rest
      some ((), rest)
    else none
  | [] => none

def skipOptional (reader : Reader Unit) (cs : List Char) : List Char :=
  match reader cs with
  | some ((), rest) => rest
  | none => cs

/-- What may follow a date: a time, and after it an offset. -/
def timeAfterDate : Reader Unit
  | c :: rest =>
    if c = 'T' ∨ c = 't' ∨ c = ' ' then do
      let ((), rest) ← time rest
      some ((), skipOptional offset rest)
    else none
  | [] => none

def moment : Reader Unit := fun cs =>
  match date cs with
  | some ((), rest) => some ((), skipOptional timeAfterDate rest)
  | none => time cs

def numeral : Reader Toml := fun cs =>
  (moment cs).map (fun ((), rest) => (Toml.moment, rest)) <|>
    (decimalFloat cs).map (fun (x, rest) => (Toml.float x, rest)) <|>
    (namedFloat cs).map (fun (x, rest) => (Toml.float x, rest)) <|>
    (integer cs).map (fun (n, rest) => (Toml.integer n, rest))

end ChatRelay.Toml.Read
