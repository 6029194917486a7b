/-!
# Double-precision numbers

A number is its 64 bits; its value is the exact dyadic `mantissa * 2 ^ exponent`.
All arithmetic is done on natural numbers: a ratio is rounded once, to the nearest
double, and a tie goes to the even one.
-/

namespace Runbook

/-- A double-precision number, given by its bits. -/
structure Binary64 where
  bits : UInt64
deriving DecidableEq, Repr, Inhabited

namespace Binary64

/-- The bits of infinity, which also count the finite magnitudes. -/
def infinityBits : Nat := 0x7FF * Nat.pow 2 52

/-- A magnitude, as its bits, with a sign. -/
def withSign (negative : Bool) (magnitude : Nat) : Binary64 :=
  ⟨UInt64.ofNat (if negative then Nat.pow 2 63 + magnitude else magnitude)⟩

/-- Zero of either sign. -/
def zero (negative : Bool) : Binary64 := withSign negative 0

/-- Infinity of either sign. -/
def infinity (negative : Bool) : Binary64 := withSign negative infinityBits

/-- The number that stands for no value. -/
def nan : Binary64 := withSign false (infinityBits + Nat.pow 2 51)

/-- Is the sign bit set? -/
def isNegative (x : Binary64) : Bool := Nat.pow 2 63 ≤ x.bits.toNat

/-- The bits without the sign. -/
def magnitude (x : Binary64) : Nat := x.bits.toNat % Nat.pow 2 63

/-- Neither an infinity nor `nan`. -/
def isFinite (x : Binary64) : Bool := x.magnitude < infinityBits

/-- Does the number stand for no value? -/
def isNan (x : Binary64) : Bool := infinityBits < x.magnitude

/-- Is it a zero of either sign? -/
def isZero (x : Binary64) : Bool := x.magnitude == 0

/-- The same number with the other sign. -/
def negate (x : Binary64) : Binary64 := withSign (!x.isNegative) x.magnitude

/-- The mantissa and exponent of a finite magnitude. -/
def parts (x : Binary64) : Nat × Int :=
  let biased : Nat := x.magnitude / Nat.pow 2 52
  let fraction : Nat := x.magnitude % Nat.pow 2 52
  if biased = 0 then (fraction, -1074) else (Nat.pow 2 52 + fraction, (biased : Int) - 1075)

/-- Two numbers are the same value: zeros agree whatever their sign, and so do two `nan`. -/
def sameValue (x y : Binary64) : Bool :=
  x == y || (x.isZero && y.isZero) || (x.isNan && y.isNan)

/-- `a / b` rounded to the nearest natural number, a tie to the even one. -/
def roundDiv (a b : Nat) : Nat :=
  let q := a / b
  let twice := 2 * (a % b)
  if twice < b then q
  else if b < twice then q + 1
  else if q % 2 = 0 then q else q + 1

/-- `n * 2 ^ e` as a ratio of natural numbers. -/
def scaleTwo (n : Nat) (e : Int) : Nat × Nat :=
  if 0 ≤ e then (n * Nat.pow 2 e.toNat, 1) else (n, Nat.pow 2 (-e).toNat)

/-- The double nearest to `num / den`. The bits of a magnitude are its mantissa counted on
from the first one of its exponent, so a mantissa that rounds up to the next power of two
carries into the exponent by itself. -/
def ofRatio (negative : Bool) (num den : Nat) : Binary64 :=
  if num = 0 ∨ den = 0 then zero negative
  else
    let guess : Int := (Nat.log2 num : Int) - (Nat.log2 den : Int)
    let scaled := scaleTwo den guess
    let top := if scaled.1 ≤ num * scaled.2 then guess else guess - 1
    let exponent := max (top - 52) (-1074)
    let (below, above) := scaleTwo den exponent
    let mantissa := roundDiv (num * above) below
    let bits := (exponent + 1074).toNat * Nat.pow 2 52 + mantissa
    if infinityBits ≤ bits then infinity negative else withSign negative bits

/-- The double nearest to `digits * 10 ^ exponent`. Exponents out of all proportion to the
digits are settled without computing the power. -/
def ofDecimal (negative : Bool) (digits : Nat) (exponent : Int) : Binary64 :=
  if digits = 0 then zero negative
  else if 400 < exponent then infinity negative
  else if exponent + ((Nat.log2 digits / 3 + 1 : Nat) : Int) < -400 then zero negative
  else if 0 ≤ exponent then ofRatio negative (digits * Nat.pow 10 exponent.toNat) 1
  else ofRatio negative digits (Nat.pow 10 (-exponent).toNat)

/-- The product of two finite magnitudes, rounded. -/
def timesMagnitude (x y : Binary64) : Binary64 :=
  let (m, e) := x.parts
  let (n, f) := y.parts
  let (num, den) := scaleTwo (m * n) (e + f)
  ofRatio false num den

/-- The quotient of two finite magnitudes, rounded. -/
def overMagnitude (x y : Binary64) : Binary64 :=
  let (m, e) := x.parts
  let (n, f) := y.parts
  let (num, den) := scaleTwo m (e - f)
  ofRatio false num (den * n)

end Binary64

end Runbook
