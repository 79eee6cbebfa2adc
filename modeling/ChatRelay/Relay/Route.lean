/-!
Routes: the patterns by which paths are told apart. A name after a colon stands for what a path has
there up to the next slash, and a name after an asterisk for all that is left of it.
-/

namespace ChatRelay

inductive Route.Piece where
  | char (c : Char)
  | segment
  | rest
  deriving DecidableEq, Repr

abbrev Route := List Route.Piece

namespace Route

def read (inName : Bool) : List Char → Route
  | [] => []
  | c :: cs =>
    -- A name ends with its segment.
    if inName && c != '/' then read true cs
    else if c = ':' then .segment :: read true cs
    else if c = '*' then [.rest]
    else .char c :: read false cs

def ofPattern (pattern : List Char) : Route :=
  read false pattern

/-- Whether a path is one of a route. At the end of a path neither kind of name stands for
nothing. -/
def fits : Route → List Char → Bool
  | [], path => path.isEmpty
  | _ :: _, [] => false
  | .char c :: route, d :: path => c == d && fits route path
  | .segment :: route, path => fits route (path.dropWhile (· != '/'))
  | .rest :: route, _ => route.isEmpty

/-- Whether a route comes before another that fits the same path: where they part it has a
character, or at least does not take all that is left. -/
def precedes : Route → Route → Bool
  | .char _ :: route, .char _ :: other => precedes route other
  | .char _ :: _, _ => true
  | .segment :: route, .segment :: other => precedes route other
  | .segment :: _, .rest :: _ => true
  | _, _ => false

/-- Of some routes the one that counts for a path. -/
def best? (path : List Char) : List Route → Option Route
  | [] => none
  | route :: routes =>
    match best? path routes with
    | none => if route.fits path then some route else none
    | some other => if route.fits path && route.precedes other then some route else some other

end Route

end ChatRelay
