import ChatRelay.Toml.Numeral

/-!
Reading a TOML document: lines of keys with values, and headers of tables.
-/

namespace ChatRelay.Toml

namespace Read

/-- Values may be nested, and keys may have steps, less often than this. -/
def depthLimit : Nat := 80

def skipComment (cs : List Char) : List Char :=
  match cs with
  | '#' :: rest => rest.dropWhile fun c => isPlain c || c.toNat == 0x7F
  | cs => cs

/-- The end of a line: blanks, a comment, and a line end or the end of the document. -/
def lineEnd? (cs : List Char) : Option (List Char) :=
  match skipComment (skipBlanks cs) with
  | [] => some []
  | cs => newline? cs

/-- Skips blanks, comments and line ends; a comment must end with its line. -/
def skipSpace : (fuel : Nat) → List Char → Option (List Char)
  | 0, _ => none
  | fuel + 1, cs =>
    let cs := skipBlanks cs
    match cs with
    | '#' :: _ => do
      let rest ← newline? (skipComment cs)
      skipSpace fuel rest
    | _ => match newline? cs with
      | some rest => skipSpace fuel rest
      | none => some cs

def isBare (c : Char) : Bool :=
  c.isAlphanum || c == '_' || c == '-'

/-- One step of a key: quoted or bare. -/
def keyStep : Reader String := fun cs =>
  match cs with
  | '"' :: _ => lineString cs
  | '\'' :: _ => lineString cs
  | _ =>
    let (bare, rest) := cs.span isBare
    if bare.isEmpty then none else some (String.ofList bare, rest)

/-- The steps of a key with dots between them and blanks around them. -/
def keySteps : (fuel : Nat) → Reader (List String)
  | 0, _ => none
  | fuel + 1, cs => do
    let (step, rest) ← keyStep (skipBlanks cs)
    match skipBlanks rest with
    | '.' :: rest => do
      let (steps, rest) ← keySteps fuel rest
      some (step :: steps, rest)
    | rest => some ([step], rest)

def key : Reader (List String) := fun cs => do
  let (steps, rest) ← keySteps (cs.length + 1) cs
  if steps.length < depthLimit then some (steps, rest) else none

/-- The items of a list, up to its bracket; a comma may follow the last one. -/
def items (item : Reader Toml) : (fuel : Nat) → Reader (List Toml)
  | 0, _ => none
  | fuel + 1, cs => do
    let cs ← skipSpace (cs.length + 1) cs
    match cs with
    | ']' :: rest => some ([], rest)
    | cs => do
      let (x, rest) ← item cs
      let rest ← skipSpace (rest.length + 1) rest
      match rest with
      | ',' :: rest => do
        let (xs, rest) ← items item fuel rest
        some (x :: xs, rest)
      | ']' :: rest => some ([x], rest)
      | _ => none

def pair (value : Reader Toml) : Reader (List String × Toml) := fun cs => do
  let (steps, rest) ← key cs
  match rest with
  | '=' :: rest => do
    let (x, rest) ← value (skipBlanks rest)
    some ((steps, x), rest)
  | _ => none

/-- The pairs of an inline table, up to its brace; no comma follows the last one. -/
def pairs (value : Reader Toml) : (fuel : Nat) → Entries → Reader Entries
  | 0, _, _ => none
  | fuel + 1, entries, cs => do
    let ((steps, x), rest) ← pair value cs
    let entries ← put x steps entries
    match skipBlanks rest with
    | ',' :: rest => pairs value fuel entries rest
    | '\x7d' :: rest => some (entries, rest)
    | _ => none

def inlineTable (value : Reader Toml) : Reader Entries := fun cs =>
  match skipBlanks cs with
  | '\x7d' :: rest => some ([], rest)
  | cs => pairs value (cs.length + 1) [] cs

def word (name : List Char) (meaning : Toml) : Reader Toml := fun cs =>
  (name.isPrefixOf? cs).map fun rest => (meaning, rest)

def scalar : Reader Toml := fun cs =>
  match cs with
  | '"' :: _ => (string cs).map fun (s, rest) => (Toml.string s, rest)
  | '\'' :: _ => (string cs).map fun (s, rest) => (Toml.string s, rest)
  | 't' :: _ => word "true".toList (.boolean true) cs
  | 'f' :: _ => word "false".toList (.boolean false) cs
  | _ => numeral cs

def value : (depth : Nat) → Reader Toml
  | 0 => fun cs =>
    match cs with
    | '[' :: _ => none
    | '\x7b' :: _ => none
    | cs => scalar cs
  | depth + 1 => fun cs =>
    match cs with
    | '[' :: rest =>
      (items (value depth) (rest.length + 1) rest).map fun (xs, rest) => (array xs, rest)
    | '\x7b' :: rest =>
      (inlineTable (value depth) rest).map fun (entries, rest) => (table .inline entries, rest)
    | cs => scalar cs

/-- A document as far as it has been read: its tables, and the header that is in force. -/
structure Document where
  entries : Entries
  header : List String

/-- Reads the header of a table or of an element of a list of tables. -/
def header (doc : Document) (cs : List Char) : Option (Document × List Char) :=
  match cs with
  | '[' :: '[' :: rest => do
    let (steps, rest) ← key rest
    match rest with
    | ']' :: ']' :: rest => do
      let rest ← lineEnd? rest
      let entries ← openElement steps doc.entries
      some (⟨entries, steps⟩, rest)
    | _ => none
  | '[' :: rest => do
    let (steps, rest) ← key rest
    match rest with
    | ']' :: rest => do
      let rest ← lineEnd? rest
      let entries ← openTable steps doc.entries
      some (⟨entries, steps⟩, rest)
    | _ => none
  | _ => none

def assignment (doc : Document) (cs : List Char) : Option (Document × List Char) := do
  let ((steps, x), rest) ← pair (value (depthLimit - 1)) cs
  let rest ← lineEnd? rest
  let entries ← descend (put x steps) doc.header doc.entries
  some ({ doc with entries }, rest)

def statements : (fuel : Nat) → Document → List Char → Option Document
  | 0, _, _ => none
  | fuel + 1, doc, cs =>
    match skipBlanks cs with
    | [] => some doc
    | '#' :: rest => do
      let rest ← lineEnd? ('#' :: rest)
      statements fuel doc rest
    | '[' :: rest => do
      let (doc, rest) ← header doc ('[' :: rest)
      statements fuel doc rest
    | cs =>
      match newline? cs with
      | some rest => statements fuel doc rest
      | none => do
        let (doc, rest) ← assignment doc cs
        statements fuel doc rest

def dropMark : List Char → List Char
  | '\uFEFF' :: rest => rest
  | cs => cs

end Read

def parse? (document : String) : Option Toml := do
  let cs := Read.dropMark document.toList
  let doc ← Read.statements (cs.length + 1) ⟨[], []⟩ cs
  some (table .header doc.entries)

end ChatRelay.Toml
