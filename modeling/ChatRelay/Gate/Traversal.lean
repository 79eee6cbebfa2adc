import ChatRelay.Url.Percent

/-!
Dot pairs that hide behind percent encoding. A path is decoded again and again; one that is
still changing after the last pass is taken to hide something.
-/

namespace ChatRelay.Gate

def hasDotPair : List Char → Bool
  | a :: b :: rest => (a == '.' && b == '.') || hasDotPair (b :: rest)
  | _ => false

def decodePass (cs : List Char) : List Char :=
  Utf8.decodeLossy (Url.percentDecode (Utf8.encode cs))

def passLimit : Nat := 4

/-- Whether a dot pair shows, or decoding does not come to rest, within some passes. -/
def hidesTraversalWithin : Nat → List Char → Bool
  -- Still changing after the last pass is as suspicious as a dot pair.
  | 0, _ => true
  | passes + 1, cs =>
    if hasDotPair cs then true
    else if decodePass cs = cs then false
    else hidesTraversalWithin passes (decodePass cs)

/-- Whether a path shows a dot pair, decoded or not, or is encoded too deeply to tell. -/
def hidesTraversal (cs : List Char) : Bool :=
  hidesTraversalWithin passLimit cs

end ChatRelay.Gate
