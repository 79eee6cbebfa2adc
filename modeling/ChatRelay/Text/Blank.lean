/-!
The characters with the Unicode property White_Space, and trimming by them.
-/

namespace ChatRelay.Text

/-- White_Space: the ASCII blanks, NEL, the no-break space and the separators. -/
def isBlank (c : Char) : Bool :=
  let n := c.toNat
  (9 ≤ n && n ≤ 13) || n == 0x20 || n == 0x85 || n == 0xA0 || n == 0x1680 ||
    (0x2000 ≤ n && n ≤ 0x200A) || n == 0x2028 || n == 0x2029 || n == 0x202F || n == 0x205F ||
    n == 0x3000

def dropEnd (p : Char → Bool) (cs : List Char) : List Char :=
  (cs.reverse.dropWhile p).reverse

def trim (cs : List Char) : List Char :=
  dropEnd isBlank (cs.dropWhile isBlank)

def splitOnce [BEq α] (sep : α) : List α → Option (List α × List α)
  | [] => none
  | x :: rest =>
    if x == sep then some ([], rest)
    else (splitOnce sep rest).map fun (before, after) => (x :: before, after)

def occursIn (part : List Char) : List Char → Bool
  | [] => part.isEmpty
  | c :: rest => part.isPrefixOf (c :: rest) || occursIn part rest

end ChatRelay.Text
