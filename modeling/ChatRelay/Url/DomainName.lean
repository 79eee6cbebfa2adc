import ChatRelay.Text.Utf8
import ChatRelay.Unicode.LabelProperties
import ChatRelay.Unicode.Normalization
import ChatRelay.Url.Punycode

/-!
Domain names in their ASCII form: characters are mapped and composed, labels checked, and labels
with characters outside ASCII written in Punycode.
-/

namespace ChatRelay.Url.DomainName

open Unicode

/-- ASCII characters that a host cannot have: controls, the space, and what delimits the parts
of a URL. -/
def isForbidden (n : Nat) : Bool :=
  n ≤ 0x20 || n == 0x7F ||
    (['%', '#', '/', ':', '<', '>', '?', '@', '[', '\\', ']', '^', '|'].map Char.toNat).contains n

def punycodeMark : List Nat := ['x', 'n', '-', '-'].map Char.toNat

/-- Maps the characters of a name; none if one is not allowed. -/
def mapped? (ns : List Nat) : Option (List Nat) := do
  let parts ← ns.mapM fun n =>
    match domainStatus n with
    | .kept => some [n]
    | .dropped => some []
    | .replaced target => some target
    | .refused => none
  some parts.flatten

/-- The condition on a joiner, given what stands before it, in reverse, and after it: a virama
before it, or, for the one that forbids joining, letters around it that would join. -/
def joinerFits (n : Nat) (before after : List Nat) : Bool :=
  before.head?.any viramas.contains ||
    n == 0x200C &&
      (before.dropWhile transparent.contains).head?.any joinsLeft.contains &&
      (after.dropWhile transparent.contains).head?.any joinsRight.contains

def joinersFit (before : List Nat) : List Nat → Bool
  | [] => true
  | n :: after =>
    (!(n == 0x200C || n == 0x200D) || joinerFits n before after) && joinersFit (n :: before) after

/-- The checks on a label: it does not begin with a mark, and its joiners fit. -/
def labelFits (ns : List Nat) : Bool :=
  !ns.head?.any isMark && joinersFit [] ns

def hasRightToLeft (ns : List Nat) : Bool :=
  ns.any isRightToLeft

/-- The rule for labels of a name with right-to-left writing: one direction throughout, and
numbers of one kind. -/
def directionFits (ns : List Nat) : Bool :=
  match ns with
  | [] => true
  | first :: _ =>
    let last := (ns.reverse.dropWhile nonspacing.contains).head?
    let neutral (n : Nat) := directionNeutral.contains n || nonspacing.contains n ||
      europeanNumber.contains n
    if directionRight.contains first then
      ns.all (fun n => neutral n || directionRight.contains n || arabicNumber.contains n) &&
        last.any (fun n => directionRight.contains n || europeanNumber.contains n ||
          arabicNumber.contains n) &&
        !(ns.any europeanNumber.contains && ns.any arabicNumber.contains)
    else if directionLeft.contains first then
      ns.all (fun n => neutral n || directionLeft.contains n) &&
        last.any (fun n => directionLeft.contains n || europeanNumber.contains n)
    else false

def label? (ns : List Nat) : Option (List Nat × List Char) := do
  match punycodeMark.isPrefixOf? ns with
  | some written =>
    if ns.any (0x80 ≤ ·) then none
    else
      -- What a label encodes must need it, and must be what mapping would have left of it.
      let decoded ← Punycode.decode? (written.map Char.ofNat)
      if decoded.all (· < 0x80) || composed decoded != decoded ||
          decoded.any (domainStatus · != .kept) || !labelFits decoded then none
      else some (decoded, ns.map Char.ofNat)
  | none =>
    if !labelFits ns then none
    else if ns.all (· < 0x80) then some (ns, ns.map Char.ofNat)
    else some (ns, ['x', 'n', '-', '-'] ++ Punycode.encode ns)

/-- The ASCII form of a name given as UTF-8; none if there is no such name. -/
def toAscii? (bytes : List UInt8) : Option (List Char) := do
  let cs ← Utf8.decode? bytes
  let ns ← mapped? (cs.map Char.toNat)
  -- Mapping and composition may bring forth what a host cannot have, so this is checked last.
  let ns := composed ns
  if ns.any isForbidden then none
  else
    let labels ← (ns.splitOn '.'.toNat).mapM label?
    if labels.any (hasRightToLeft ·.1) && !labels.all (directionFits ·.1) then none
    else some (List.intercalate ['.'] (labels.map (·.2)))

end ChatRelay.Url.DomainName
