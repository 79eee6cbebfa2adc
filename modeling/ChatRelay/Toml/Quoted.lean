import ChatRelay.Number.Numeral

/-!
The strings of TOML: basic ones with escapes, literal ones without, each on one line or on
several.
-/

namespace ChatRelay.Toml.Read

/-- A reader of one part of a document: what it reads, and the text after it. -/
abbrev Reader (α : Type) := List Char → Option (α × List Char)

def isBlank (c : Char) : Bool := c == ' ' || c == '\t'

def skipBlanks (cs : List Char) : List Char := cs.dropWhile isBlank

def newline? : List Char → Option (List Char)
  | '\n' :: rest => some rest
  | '\r' :: '\n' :: rest => some rest
  | _ => none

/-- The characters that strings and comments may hold: no controls but the tab. -/
def isPlain (c : Char) : Bool :=
  c == '\t' || (0x20 ≤ c.toNat && c.toNat != 0x7F)

def hexValue? (c : Char) : Option Nat :=
  if c.isDigit then some (c.toNat - '0'.toNat)
  else if 'a' ≤ c ∧ c ≤ 'f' then some (c.toNat - 'a'.toNat + 10)
  else if 'A' ≤ c ∧ c ≤ 'F' then some (c.toNat - 'A'.toNat + 10)
  else none

def hexChar (count : Nat) : Reader Char := fun cs => do
  let digits ← (cs.take count).mapM hexValue?
  let code := digits.foldl (fun n d => 16 * n + d) 0
  if digits.length = count ∧ code.isValidChar then some (Char.ofNat code, cs.drop count) else none

def escaped : Reader Char
  | 'b' :: rest => some ('\x08', rest)
  | 't' :: rest => some ('\t', rest)
  | 'n' :: rest => some ('\n', rest)
  | 'f' :: rest => some ('\x0c', rest)
  | 'r' :: rest => some ('\r', rest)
  | '"' :: rest => some ('"', rest)
  | '\\' :: rest => some ('\\', rest)
  | 'u' :: rest => hexChar 4 rest
  | 'U' :: rest => hexChar 8 rest
  | _ => none

def skipLines : (fuel : Nat) → List Char → List Char
  | 0, cs => cs
  | fuel + 1, cs =>
    let cs := skipBlanks cs
    match newline? cs with
    | some rest => skipLines fuel rest
    | none => cs

def basic : (fuel : Nat) → Reader (List Char)
  | 0, _ => none
  | _ + 1, [] => none
  | fuel + 1, c :: rest =>
    if c = '"' then some ([], rest)
    else if c = '\\' then do
      let (x, rest) ← escaped rest
      let (text, rest) ← basic fuel rest
      some (x :: text, rest)
    else if isPlain c then do
      let (text, rest) ← basic fuel rest
      some (c :: text, rest)
    else none

def literal : Reader (List Char)
  | [] => none
  | c :: rest =>
    if c = '\'' then some ([], rest)
    else if isPlain c then do
      let (text, rest) ← literal rest
      some (c :: text, rest)
    else none

/-- A run of quotes inside a string of several lines. One or two are text; of three to five the
last three close the string. -/
inductive Run where
  | text
  | close (kept : Nat)
  | tooLong

def Run.ofLength (n : Nat) : Run :=
  if n ≤ 2 then .text else if n ≤ 5 then .close (n - 3) else .tooLong

/-- The rest of a string of several lines, up to three of its quotes. A basic one has escapes,
and a backslash at a line's end joins the next text that is not blank. -/
def lines (quote : Char) (isBasic : Bool) : (fuel : Nat) → Reader (List Char)
  | 0, _ => none
  | _ + 1, [] => none
  | fuel + 1, c :: rest =>
    let go (text : List Char) (rest : List Char) : Option (List Char × List Char) := do
      let (more, rest) ← lines quote isBasic fuel rest
      some (text ++ more, rest)
    if c = quote then
      let (run, rest) := (c :: rest).span (· == quote)
      match Run.ofLength run.length with
      | .text => go run rest
      | .close kept => some (List.replicate kept quote, rest)
      | .tooLong => none
    else if c = '\\' ∧ isBasic then
      match newline? (skipBlanks rest) with
      | some next => go [] (skipLines (next.length + 1) next)
      | none => do
        let (x, rest) ← escaped rest
        go [x] rest
    else match newline? (c :: rest) with
      | some next => go ['\n'] next
      | none => if isPlain c then go [c] rest else none

def dropNewline (cs : List Char) : List Char :=
  (newline? cs).getD cs

def lineString : Reader String := fun cs =>
  match cs with
  | '"' :: rest => (basic cs.length rest).map fun (text, rest) => (String.ofList text, rest)
  | '\'' :: rest => (literal rest).map fun (text, rest) => (String.ofList text, rest)
  | _ => none

def string : Reader String := fun cs =>
  match cs with
  | '"' :: '"' :: '"' :: rest =>
    (lines '"' true cs.length (dropNewline rest)).map fun (text, rest) =>
      (String.ofList text, rest)
  | '\'' :: '\'' :: '\'' :: rest =>
    (lines '\'' false cs.length (dropNewline rest)).map fun (text, rest) =>
      (String.ofList text, rest)
  | cs => lineString cs

end ChatRelay.Toml.Read
