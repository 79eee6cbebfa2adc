/-!
Sets of code points as the sorted list of the points where membership changes.
-/

namespace ChatRelay.Unicode

/-- A set of code points: outside it up to the first bound, inside up to the second, and so on. -/
structure CodeSet where
  bounds : List Nat
  deriving Repr, Inhabited

def numerals (lines : List String) : List Nat :=
  lines.flatMap fun line => (line.splitOn " ").filterMap String.toNat?

def sums : Nat → List Nat → List Nat
  | _, [] => []
  | total, n :: rest => (total + n) :: sums (total + n) rest

namespace CodeSet

def ofGaps (lines : List String) : CodeSet := ⟨sums 0 (numerals lines)⟩

/-- A code point is inside when an odd number of bounds is not above it. -/
def contains (s : CodeSet) (n : Nat) : Bool :=
  (s.bounds.takeWhile (· ≤ n)).length % 2 == 1

end CodeSet

end ChatRelay.Unicode
