/-!
Cutting a text to a number of bytes without cutting a character.
-/

namespace ChatRelay.Text

def byteSize : List Char → Nat
  | [] => 0
  | c :: rest => c.utf8Size + byteSize rest

/-- Whether some characters from the start of a text take exactly so many bytes. -/
def isBoundary : List Char → Nat → Bool
  | _, 0 => true
  | [], _ + 1 => false
  | c :: rest, n + 1 => c.utf8Size ≤ n + 1 && isBoundary rest (n + 1 - c.utf8Size)

def lastBoundary (cs : List Char) : Nat → Nat
  | 0 => 0
  | n + 1 => if isBoundary cs (n + 1) then n + 1 else lastBoundary cs n

def takeBytes : Nat → List Char → List Char
  | _, [] => []
  | n, c :: rest => if c.utf8Size ≤ n then c :: takeBytes (n - c.utf8Size) rest else []

/-- A text cut at the last boundary within a limit, if it is longer. -/
def cut (limit : Nat) (cs : List Char) : List Char :=
  if limit < byteSize cs then takeBytes (lastBoundary cs limit) cs else cs

end ChatRelay.Text
