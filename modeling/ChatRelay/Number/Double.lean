/-!
Finite double-precision numbers, held exactly, and arithmetic that rounds an exact quotient to
the nearest of them, a tie going to the even one.
-/

namespace ChatRelay.Number

/-- The number `± mantissa · 2 ^ exponent`. -/
structure Double where
  negative : Bool
  mantissa : Nat
  exponent : Int
  deriving DecidableEq, Repr, Inhabited

namespace Double

def leadingBit : Nat := 52

/-- The least exponent; a number with it may have fewer than 53 bits. -/
def leastExponent : Int := -1074

def greatestExponent : Int := 971

def zero (negative : Bool) : Double := ⟨negative, 0, leastExponent⟩

def isZero (x : Double) : Bool := x.mantissa == 0

def withSign (negative : Bool) (x : Double) : Double := { x with negative }

def fraction (x : Double) : Nat × Nat :=
  if 0 ≤ x.exponent then (x.mantissa * Nat.pow 2 x.exponent.toNat, 1)
  else (x.mantissa, Nat.pow 2 (-x.exponent).toNat)

/-- The quotient rounded to the nearest whole number, a half to the even one. -/
def roundHalfEven (num den : Nat) : Nat :=
  let q := num / den
  let r := num % den
  if 2 * r < den then q
  else if den < 2 * r then q + 1
  else if q % 2 = 0 then q else q + 1

def inUnits (num den : Nat) (exponent : Int) : Nat :=
  if 0 ≤ exponent then roundHalfEven num (den * Nat.pow 2 exponent.toNat)
  else roundHalfEven (num * Nat.pow 2 (-exponent).toNat) den

def reaches (num den : Nat) (k : Int) : Bool :=
  if 0 ≤ k then den * Nat.pow 2 k.toNat ≤ num else den ≤ num * Nat.pow 2 (-k).toNat

def binaryExponent (num den : Nat) : Int :=
  let k : Int := (num.log2 : Int) - den.log2
  if reaches num den k then k else k - 1

/-- The double nearest to `± num / den`; none if the magnitude is beyond all of them. -/
def ofQuotient (negative : Bool) (num den : Nat) : Option Double :=
  if num = 0 then some (zero negative)
  else
    let exponent := max leastExponent (binaryExponent num den - leadingBit)
    let mantissa := inUnits num den exponent
    let (mantissa, exponent) :=
      if mantissa = Nat.pow 2 (leadingBit + 1) then (Nat.pow 2 leadingBit, exponent + 1)
      else (mantissa, exponent)
    if greatestExponent < exponent then none else some ⟨negative, mantissa, exponent⟩

def ofNat (n : Nat) : Option Double := ofQuotient false n 1

/-- The double nearest to `± digits · 10 ^ exponent`. Exponents so far out that the answer no
longer depends on them are not raised to a power. -/
def ofDecimal (negative : Bool) (digits : Nat) (exponent : Int) : Option Double :=
  if digits = 0 then some (zero negative)
  else
    let size : Int := (Nat.toDigits 10 digits).length
    if 310 < size + exponent then none
    else if size + exponent < -330 then some (zero negative)
    else if 0 ≤ exponent then ofQuotient negative (digits * Nat.pow 10 exponent.toNat) 1
    else ofQuotient negative digits (Nat.pow 10 (-exponent).toNat)

/-- The rounded product; none if it is beyond all doubles. -/
def mul (x y : Double) : Option Double :=
  let (a, b) := x.fraction
  let (c, d) := y.fraction
  ofQuotient (x.negative != y.negative) (a * c) (b * d)

def div (x y : Double) : Option Double :=
  let (a, b) := x.fraction
  let (c, d) := y.fraction
  ofQuotient (x.negative != y.negative) (a * d) (b * c)

end Double

/-- A double, the values that are no numbers included. -/
inductive Extended where
  | finite (x : Double)
  | infinite (negative : Bool)
  | notANumber
  deriving DecidableEq, Repr, Inhabited

end ChatRelay.Number
