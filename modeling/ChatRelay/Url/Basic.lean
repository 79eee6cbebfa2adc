import ChatRelay.Url.Host

/-!
URLs taken apart, and their text.
-/

namespace ChatRelay

/-- Where a URL with slashes after its scheme points. -/
structure Url.Authority where
  username : List Char
  password : Option (List Char)
  host : Option Url.Host
  port : Option Nat
  deriving DecidableEq, Repr

/-- The path of a URL: segments, each written after a slash, or text without structure. -/
inductive Url.Path where
  | segments (parts : List (List Char))
  | text (cs : List Char)
  deriving DecidableEq, Repr

structure Url where
  scheme : List Char
  authority : Option Url.Authority
  path : Url.Path
  query : Option (List Char)
  fragment : Option (List Char)
  deriving DecidableEq, Repr

namespace Url

/-- How the rules treat a scheme. -/
inductive Kind where
  | file
  | special
  | general
  deriving DecidableEq, Repr

def defaultPorts : List (List Char × Nat) :=
  [("http".toList, 80), ("https".toList, 443), ("ws".toList, 80), ("wss".toList, 443),
    ("ftp".toList, 21)]

def defaultPort? (scheme : List Char) : Option Nat :=
  defaultPorts.lookup scheme

def kindOf (scheme : List Char) : Kind :=
  if scheme = "file".toList then .file
  else if (defaultPort? scheme).isSome then .special
  else .general

def kind (u : Url) : Kind := kindOf u.scheme

def writeSegments (parts : List (List Char)) : List Char :=
  parts.flatMap ('/' :: ·)

def Path.write : Path → List Char
  | .segments parts => writeSegments parts
  | .text cs => cs

def pathText (u : Url) : List Char := u.path.write

/-- The text of an authority. A name or password is followed by an at sign, a port preceded by a
colon. -/
def Authority.write (a : Authority) : List Char :=
  let user := a.username ++ match a.password with
    | some password => ':' :: password
    | none => []
  (if user.isEmpty then [] else user ++ ['@']) ++
    (match a.host with
      | some host => host.write
      | none => []) ++
    match a.port with
    | some port => ':' :: Nat.toDigits 10 port
    | none => []

/-- What stands between the scheme and the path. Without an authority, a path that begins with
two slashes is kept from looking like one. -/
def writeAuthority (u : Url) : List Char :=
  match u.authority, u.path with
  | some a, _ => '/' :: '/' :: a.write
  | none, .segments ([] :: _ :: _) => ['/', '.']
  | none, _ => []

def writePart (mark : Char) : Option (List Char) → List Char
  | some cs => mark :: cs
  | none => []

def write (u : Url) : List Char :=
  u.scheme ++ [':'] ++ u.writeAuthority ++ u.pathText ++ writePart '?' u.query ++
    writePart '#' u.fragment

def host? (u : Url) : Option Host := u.authority.bind (·.host)

/-- The port written in a URL, or the default one of its scheme. -/
def effectivePort? (u : Url) : Option Nat :=
  (u.authority.bind (·.port)) <|> defaultPort? u.scheme

/-- The user name of a URL; empty if it has none. -/
def username (u : Url) : List Char :=
  (u.authority.map (·.username)).getD []

def password? (u : Url) : Option (List Char) :=
  u.authority.bind (·.password)

end Url

end ChatRelay
