/-!
Punycode: code points outside ASCII written as differences, in ascending order, behind the ASCII
part of a label. Reading goes through the digits once; each of them either carries on the
current difference or ends it.
-/

namespace ChatRelay.Url.Punycode

/-- The value of a digit: letters first, then decimal digits. -/
def digitValue? (c : Char) : Option Nat :=
  if 'a' ≤ c ∧ c ≤ 'z' then some (c.toNat - 'a'.toNat)
  else if 'A' ≤ c ∧ c ≤ 'Z' then some (c.toNat - 'A'.toNat)
  else if '0' ≤ c ∧ c ≤ '9' then some (c.toNat - '0'.toNat + 26)
  else none

def digit (n : Nat) : Char :=
  if n < 26 then Char.ofNat ('a'.toNat + n) else Char.ofNat ('0'.toNat + (n - 26))

/-- The least value of a digit, at a weight position, that is not the last of its difference. -/
def threshold (position bias : Nat) : Nat :=
  if position ≤ bias + 1 then 1 else if bias + 26 ≤ position then 26 else position - bias

def settle : Nat → Nat → Nat × Nat
  | 0, delta => (delta, 0)
  | fuel + 1, delta =>
    if delta ≤ 455 then (delta, 0)
    else
      let (last, k) := settle fuel (delta / 35)
      (last, k + 36)

/-- The bias after a difference, the code points so far counted with it. -/
def adapt (delta count : Nat) (isFirst : Bool) : Nat :=
  let delta := if isFirst then delta / 700 else delta / 2
  let (last, k) := settle (delta + delta / count) (delta + delta / count)
  k + 36 * last / (last + 38)

/-- Reading in progress: the code points so far, the last one put in, the running difference and
where it began, the bias, and the weight and position of the next digit. -/
structure Reading where
  output : List Nat
  last : Nat
  index : Nat
  start : Nat
  bias : Nat
  weight : Nat
  position : Nat

def Reading.step (r : Reading) (c : Char) : Option Reading := do
  let value ← digitValue? c
  let index := r.index + value * r.weight
  let t := threshold r.position r.bias
  if t ≤ value then
    some { r with index, weight := r.weight * (36 - t), position := r.position + 36 }
  else
    let count := r.output.length + 1
    let n := r.last + index / count
    if 0x110000 ≤ n ∨ 0xD800 ≤ n ∧ n < 0xE000 then none
    else
      let place := index % count
      some {
        output := r.output.take place ++ n :: r.output.drop place
        last := n
        index := place + 1
        start := place + 1
        bias := adapt (index - r.start) count (r.start == 0)
        weight := 1
        position := 36 }

/-- Splits at the last hyphen; without one all belongs to the second part. -/
def splitBasic (cs : List Char) : List Char × List Char :=
  match cs.reverse.span (· != '-') with
  | (after, _ :: before) => (before.reverse, after.reverse)
  | (_, []) => ([], cs)

def decode? (cs : List Char) : Option (List Nat) := do
  let (basic, digits) := splitBasic cs
  if basic.any (0x80 ≤ ·.toNat) then none
  else
    let r ← digits.foldlM Reading.step ⟨basic.map Char.toNat, 0x80, 0, 0, 72, 1, 36⟩
    if r.position = 36 then some r.output else none

def digits : Nat → Nat → Nat → Nat → List Char
  | 0, _, _, _ => []
  | fuel + 1, bias, position, q =>
    let t := threshold position bias
    if q < t then [digit q]
    else digit (t + (q - t) % (36 - t)) :: digits fuel bias (position + 36) ((q - t) / (36 - t))

/-- Writing in progress: the digits so far, the running difference, the bias, and how many code
points have been written. -/
structure Writing where
  output : List Char
  delta : Nat
  bias : Nat
  written : Nat

/-- Passes one code point of the input while `next` is being written. -/
def Writing.pass (basic next : Nat) (w : Writing) (n : Nat) : Writing :=
  if n < next then { w with delta := w.delta + 1 }
  else if n = next then {
    output := w.output ++ digits (w.delta + 1) w.bias 36 w.delta
    delta := 0
    bias := adapt w.delta (w.written + 1) (w.written == basic)
    written := w.written + 1 }
  else w

def insertOnce (n : Nat) : List Nat → List Nat
  | [] => [n]
  | m :: rest => if n < m then n :: m :: rest else if n = m then m :: rest
      else m :: insertOnce n rest

def encode (ns : List Nat) : List Char :=
  let basic := ns.filter (· < 0x80)
  let others := (ns.filter (0x80 ≤ ·)).foldr insertOnce []
  let front := basic.map Char.ofNat ++ if basic.isEmpty then [] else ['-']
  let (w, _) := others.foldl (fun (w, n) next =>
      let w := { w with delta := w.delta + (next - n) * (w.written + 1) }
      let w := ns.foldl (Writing.pass basic.length next) w
      ({ w with delta := w.delta + 1 }, next + 1))
    ((⟨[], 0, 72, basic.length⟩ : Writing), 0x80)
  front ++ w.output

end ChatRelay.Url.Punycode
