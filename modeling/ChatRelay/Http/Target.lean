import ChatRelay.Http.Header

/-!
The target of a request: what stands between the method and the version.
-/

namespace ChatRelay.Http

/-- A target: its path and its query. A target that names only a host has an empty path. -/
structure Target where
  path : List Char
  query : Option (List Char)
  deriving DecidableEq, Repr, Inhabited

namespace Target

def text (t : Target) : List Char :=
  t.path ++ match t.query with
    | some query => '?' :: query
    | none => []

def isPathChar (c : Char) : Bool :=
  let n := c.toNat
  n == 0x21 || n == 0x22 || (0x24 ≤ n && n ≤ 0x3B) || n == 0x3D || (0x40 ≤ n && n ≤ 0x5F) ||
    0x61 ≤ n

def isQueryChar (c : Char) : Bool :=
  let n := c.toNat
  n == 0x21 || (0x24 ≤ n && n ≤ 0x3B) || n == 0x3D || 0x3F ≤ n

def isSchemeChar (c : Char) : Bool :=
  c.isAlphanum || c == '+' || c == '-' || c == '.'

/-- The characters of a host, with a user before it and a port after it. -/
def isAuthorityChar (c : Char) : Bool :=
  c.isAlphanum || c ∈ "!$&'()*+,-.:;=@[]_~%".toList

def endsAuthority (c : Char) : Bool :=
  c == '/' || c == '?' || c == '#'

/-- A path and a query; what follows a number sign is dropped, and no path is a slash. -/
def ofPath? (cs : List Char) : Option Target :=
  let cs := cs.takeWhile (· != '#')
  let (path, rest) := cs.span (· != '?')
  let query := match rest with
    | _ :: query => some query
    | [] => none
  if path.all isPathChar && (query.getD []).all isQueryChar then
    some ⟨if path.isEmpty then ['/'] else path, query⟩
  else none

/-- Whether a host is well formed: at most one colon outside brackets and user, no percent sign
but in them, and something after an at sign. -/
def isAuthority (cs : List Char) : Bool :=
  let host := (cs.reverse.takeWhile (· != '@')).reverse
  let named := host.length < cs.length
  let brackets := cs.filter fun c => c == '[' || c == ']'
  let afterBracket := (host.reverse.takeWhile (· != ']')).reverse
  cs.all isAuthorityChar && (brackets.isEmpty || brackets == ['[', ']']) &&
    (afterBracket.count ':' ≤ 1) && !afterBracket.contains '%' && !(named && host.isEmpty)

/-- The scheme that a target begins with, and what follows its slashes. -/
def scheme? (cs : List Char) : Option (List Char × List Char) :=
  let (scheme, rest) := cs.span isSchemeChar
  match rest with
  | ':' :: '/' :: '/' :: rest => some (scheme, rest)
  | _ => none

def schemeLimit : Nat := 64

/-- Reads a target: a path with a query, a whole URL, a host alone, or an asterisk. -/
def parse? (cs : List Char) : Option Target :=
  match cs with
  | [] => none
  | ['*'] => some ⟨['*'], none⟩
  | '/' :: _ => ofPath? cs
  | _ =>
    match scheme? cs with
    | some (scheme, rest) =>
      let (authority, rest) := rest.span (!endsAuthority ·)
      if scheme.length ≤ schemeLimit && !authority.isEmpty && isAuthority authority then
        ofPath? rest
      else none
    | none => if isAuthority cs then some ⟨[], none⟩ else none

end Target

end ChatRelay.Http
