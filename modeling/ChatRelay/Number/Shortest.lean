import ChatRelay.Number.Double

/-!
The shortest decimal that reads back as a given double, and its text. For one, two, … seventeen
digits the two neighbours of the number on that decimal grid are tried; the first grid with a
hit wins, and of two hits the nearer.
-/

namespace ChatRelay.Number

/-- The decimal `digits · 10 ^ exponent`. -/
structure Decimal where
  digits : Nat
  exponent : Int
  deriving DecidableEq, Repr, Inhabited

namespace Shortest

/-- The decimals that read back as one double: all between two bounds counted, like the value
itself, in units of `unit / 4`. -/
structure Interval where
  value : Nat
  below : Nat
  above : Nat
  closed : Bool

/-- Around a mantissa the interval reaches half a unit each way, but only a quarter below the
least mantissa of its exponent. Its ends belong to it when the mantissa is even. -/
def interval (x : Double) : Interval :=
  let narrow := x.mantissa = Nat.pow 2 Double.leadingBit ∧ Double.leastExponent < x.exponent
  { value := 4 * x.mantissa
    below := 4 * x.mantissa - if narrow then 1 else 2
    above := 4 * x.mantissa + 2
    closed := x.mantissa % 2 = 0 }

/-- Four times the unit of a double's mantissa, as a fraction divided by four. -/
def unit (x : Double) : Nat × Nat :=
  if 0 ≤ x.exponent then (Nat.pow 2 x.exponent.toNat, 4) else (1, 4 * Nat.pow 2 (-x.exponent).toNat)

/-- Divides by ten until less than ten is left, counting the steps. -/
def tensAbove : Nat → Nat → Nat → Nat
  | 0, _, _ => 0
  | fuel + 1, num, den => if 10 * den ≤ num then tensAbove fuel num (10 * den) + 1 else 0

/-- Multiplies by ten until at least one is reached, counting the steps. -/
def tensBelow : Nat → Nat → Nat → Nat
  | 0, _, _ => 0
  | fuel + 1, num, den => if num < den then tensBelow fuel (10 * num) den + 1 else 0

/-- The `e` with `10 ^ e ≤ num / den < 10 ^ (e + 1)`, for magnitudes that a double can have. -/
def decimalExponent (num den : Nat) : Int :=
  if den ≤ num then tensAbove 400 num den else -(tensBelow 400 num den : Int)

/-- Whether `n · 10 ^ exponent`, in units of `num / den`, lies in the interval. -/
def Interval.holds (i : Interval) (num den n : Nat) (exponent : Int) : Bool :=
  let left := if 0 ≤ exponent then n * Nat.pow 10 exponent.toNat * den else n * den
  let scale := if 0 ≤ exponent then num else num * Nat.pow 10 (-exponent).toNat
  if i.closed then i.below * scale ≤ left && left ≤ i.above * scale
  else i.below * scale < left && left < i.above * scale

/-- The neighbours of the value on the grid of `10 ^ exponent`: the one below it, and twice the
distance from there compared with the width of the grid. -/
def neighbours (i : Interval) (num den : Nat) (exponent : Int) : Nat × Ordering :=
  let top := if 0 ≤ exponent then i.value * num else i.value * num * Nat.pow 10 (-exponent).toNat
  let width := if 0 ≤ exponent then den * Nat.pow 10 exponent.toNat else den
  (top / width, compare (2 * (top % width)) width)

/-- The decimal on one grid that reads back, if there is one. Of two the nearer is taken, and
of two as near the even one. -/
def onGrid (i : Interval) (num den : Nat) (exponent : Int) : Option Decimal :=
  let (low, half) := neighbours i num den exponent
  let lower := i.holds num den low exponent
  let upper := i.holds num den (low + 1) exponent
  let preferLower := match half with
    | .lt => true
    | .gt => false
    | .eq => low % 2 = 0
  if lower && (preferLower || !upper) then some ⟨low, exponent⟩
  else if upper then some ⟨low + 1, exponent⟩
  else none

def search (i : Interval) (num den : Nat) : Nat → Int → Decimal
  | 0, _ => ⟨i.value, 0⟩
  | fuel + 1, exponent =>
    (onGrid i num den exponent).getD (search i num den fuel (exponent - 1))

end Shortest

/-- The shortest decimal that reads back as the magnitude of a double. -/
def Double.shortest (x : Double) : Decimal :=
  if x.mantissa = 0 then ⟨0, 0⟩
  else
    let (num, den) := Shortest.unit x
    let i := Shortest.interval x
    Shortest.search i num den 18 (Shortest.decimalExponent (i.value * num) den)

/-- How numbers are written: from which decimal exponent up to which one positionally. -/
structure RealFormat where
  leastPositional : Int
  beyondPositional : Int

/-- JSON texts write numbers from 1e-5 up to 1e16 positionally, always with a fraction, and all
others with a signed exponent. -/
def RealFormat.json : RealFormat := ⟨-5, 16⟩

/-- The significant digits, without trailing zeros, and the exponent of the first of them. -/
def Decimal.scientific (d : Decimal) : List Char × Int :=
  let all := Nat.toDigits 10 d.digits
  let kept := (all.reverse.dropWhile (· == '0')).reverse
  (if kept.isEmpty then ['0'] else kept, d.exponent + all.length - 1)

/-- Digits with a point after the first `n` of them, zeros filling up both sides. -/
def positional (digits : List Char) (n : Int) : List Char :=
  if n ≤ 0 then ['0', '.'] ++ List.replicate (-n).toNat '0' ++ digits
  else
    let n := n.toNat
    if digits.length ≤ n then digits ++ List.replicate (n - digits.length) '0' ++ ['.', '0']
    else digits.take n ++ ['.'] ++ digits.drop n

def Double.write (format : RealFormat) (x : Double) : List Char :=
  let (digits, exponent) :=
    if x.mantissa = 0 then (['0'], 0) else x.shortest.scientific
  let body :=
    if format.leastPositional ≤ exponent ∧ exponent < format.beyondPositional then
      positional digits (exponent + 1)
    else
      digits.take 1 ++ (if digits.length ≤ 1 then [] else '.' :: digits.drop 1) ++ ['e'] ++
        (if exponent < 0 then ['-'] else ['+']) ++ Nat.toDigits 10 exponent.natAbs
  if x.negative then '-' :: body else body

end ChatRelay.Number
