import ChatRelay.Gate.Traversal
import ChatRelay.Url.Origin

/-!
The gate that every HTTP path passes before the backend is asked: the path is normalized like a
URL on this machine, must lie under the root, must hide no dot pair, and must lie under an
allowed entry.
-/

namespace ChatRelay.Gate

/-- The paths that may be forwarded: those under the root that continue with an entry. -/
structure Allowlist where
  root : List Char
  entries : List (List Char)
  deriving DecidableEq, Repr

/-- Why a path is turned away. -/
inductive Rejection where
  | empty
  | malformed
  | outsideRoot (root : List Char)
  | traversal
  | notAllowed (backendPath : List Char)
  deriving DecidableEq, Repr

def Rejection.message : Rejection → String
  | .empty => "Path must be a non-empty string"
  | .malformed => "Invalid or malformed path"
  | .outsideRoot root => "Path must start with " ++ String.ofList root ++ "/"
  | .traversal => "Path traversal is not allowed"
  | .notAllowed backendPath =>
    "Backend path '" ++ String.ofList backendPath ++ "' is not in allowed list"

/-- A path that may be forwarded: as normalized, without the root, and its query. -/
structure Target where
  path : List Char
  backendPath : List Char
  query : Option (List Char)
  deriving DecidableEq, Repr

def localOrigin : Url where
  scheme := "http".toList
  authority := some ⟨[], none, some (.domain "localhost".toList), none⟩
  path := .segments [[]]
  query := none
  fragment := none

/-- A path as a URL of the local origin; none if it names another origin or a user. -/
def normalize? (path : List Char) : Option Url := do
  -- A path that begins with two slashes names a host, and must then name this one.
  let url ← (localOrigin.join path).toOption
  if url.origin? = localOrigin.origin? ∧ url.username = [] ∧ url.password? = none then some url
  else none

def trimSlashes (cs : List Char) : List Char :=
  Text.dropEnd (· == '/') cs

def Target.url (t : Target) (backend : List Char) : List Char :=
  trimSlashes backend ++ t.backendPath ++ Url.writePart '?' t.query

namespace Allowlist

/-- Whether a path equals an entry or goes on after it with a slash. -/
def permits (a : Allowlist) (backendPath : List Char) : Bool :=
  a.entries.any fun entry =>
    match entry.isPrefixOf? backendPath with
    | some rest => rest.isEmpty || rest.head? = some '/'
    | none => false

def resolve (a : Allowlist) (path : List Char) : Except Rejection Target := do
  if path.isEmpty then throw .empty
  match normalize? path with
  | none => throw .malformed
  | some url =>
    let normalized := url.pathText
    -- The root must end where a segment does, and what is left keeps its slash.
    match (a.root ++ ['/']).isPrefixOf? normalized with
    | none => throw (.outsideRoot a.root)
    | some rest =>
      let backendPath := '/' :: rest
      if hidesTraversal backendPath then throw .traversal
      if !a.permits backendPath then throw (.notAllowed backendPath)
      return ⟨normalized, backendPath, url.query⟩

end Allowlist

end ChatRelay.Gate
