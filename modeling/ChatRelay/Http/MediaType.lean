import ChatRelay.Http.Header

/-!
Media types such as `text/plain; charset=utf-8`, of which only the parameters are of interest.
-/

namespace ChatRelay.Http.MediaType

/-- A parameter: its name in lower case, and its value. -/
abbrev Parameter := String × String

def isQuotedChar (c : Char) : Bool :=
  31 < c.toNat && c.toNat != 127 && c != '"'

/-- Splits off the token that a text begins with, if it begins with one. -/
def token? (cs : List Char) : Option (List Char × List Char) :=
  let (token, rest) := cs.span isTokenChar
  if token.isEmpty then none else some (token, rest)

/-- What follows a quoted value: blanks up to the end or the next semicolon. -/
def afterQuoted? (cs : List Char) : Option (List Char) :=
  match cs.dropWhile (· == ' ') with
  | [] => some []
  | c :: rest => if c = ';' then some rest else none

/-- What follows a bare value: the end or the next semicolon. -/
def afterToken? : List Char → Option (List Char)
  | [] => some []
  | c :: rest => if c = ';' then some rest else none

/-- A value and the text of the next parameters. A quoted value is not empty. -/
def value? : List Char → Option (List Char × List Char)
  | '"' :: rest =>
    let (value, rest) := rest.span isQuotedChar
    match rest with
    | '"' :: rest =>
      if value.isEmpty then none else (afterQuoted? rest).map fun rest => (value, rest)
    | _ => none
  | [] => some ([], [])
  | cs => do
    let (value, rest) ← token? cs
    let rest ← afterToken? rest
    some (value, rest)

/-- The parameters of a text in which each is preceded by blanks. -/
def parameters? : (fuel : Nat) → List Char → Option (List Parameter)
  | 0, _ => none
  | fuel + 1, cs =>
    match cs.dropWhile (· == ' ') with
    | [] => some []
    | c :: rest => do
      let (name, rest) ← token? (c :: rest)
      match rest with
      | '=' :: rest =>
        let (value, rest) ← value? rest
        let more ← parameters? fuel rest
        some ((lower (String.ofList name), String.ofList value) :: more)
      | _ => none

/-- The parameters of a media type: two tokens with a slash between them, and after a semicolon
the parameters. -/
def parse? (s : String) : Option (List Parameter) := do
  let (_, rest) ← token? s.toList
  match rest with
  | '/' :: rest =>
    let (_, rest) ← token? rest
    match rest with
    | [] => some []
    | ';' :: rest => parameters? (rest.length + 1) rest
    | _ => none
  | _ => none

/-- The character set that a content type names. A content type that is not all visible ASCII is
not read. -/
def charset? (contentType : String) : Option String := do
  if !contentType.toList.all isVisible then none
  let parameters ← parse? contentType
  parameters.lookup "charset"

end ChatRelay.Http.MediaType
