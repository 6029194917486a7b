import Runbook.Decimal.Binary64

/-!
# Shortest decimals

The fewest digits that read back as the same double, the nearest of those to its value,
and the two texts this library writes them in.
-/

namespace Runbook.Binary64

/-- A number of the form `digits * 10 ^ exponent`. -/
structure Decimal where
  digits : Nat
  exponent : Int
deriving DecidableEq, Repr

/-- `n * 10 ^ e` as a ratio of natural numbers. -/
def scaleTen (n : Nat) (e : Int) : Nat × Nat :=
  if 0 ≤ e then (n * Nat.pow 10 e.toNat, 1) else (n, Nat.pow 10 (-e).toNat)

/-- Does `digits * 10 ^ exponent` lie among the reals that round to the finite magnitude `x`?
The ends of that interval belong to it when the mantissa is even. Everything is counted in
quarters of the unit in the last place. -/
def roundsTo (x : Binary64) (candidate : Decimal) : Bool :=
  let (mantissa, exponent) := x.parts
  let below := if mantissa = Nat.pow 2 52 ∧ -1074 < exponent then 1 else 2
  let (lowNum, lowDen) := scaleTwo (4 * mantissa - below) (exponent - 2)
  let (highNum, highDen) := scaleTwo (4 * mantissa + 2) (exponent - 2)
  let (num, den) := scaleTen candidate.digits candidate.exponent
  if mantissa % 2 = 0 then lowNum * den ≤ num * lowDen && num * highDen ≤ highNum * den
  else lowNum * den < num * lowDen && num * highDen < highNum * den

/-- The two points of the grid `10 ^ exponent` around the value of `x`, nearer one first, the
even one first when they are equally near. -/
def gridNeighbours (x : Binary64) (exponent : Int) : List Decimal :=
  let (mantissa, power) := x.parts
  let (num, den) := scaleTwo mantissa power
  let (step, stepDen) := scaleTen 1 exponent
  let whole := num * stepDen
  let unit := den * step
  let floor := whole / unit
  let twice := 2 * (whole % unit)
  let floorFirst := twice < unit ∨ (twice = unit ∧ floor % 2 = 0)
  if floorFirst then [⟨floor, exponent⟩, ⟨floor + 1, exponent⟩]
  else [⟨floor + 1, exponent⟩, ⟨floor, exponent⟩]

/-- The power of ten of the leading digit of `num / den`, found by counting digits. -/
def leadingPower (num den : Nat) : Int :=
  let size (n : Nat) : Int := (Nat.toDigits 10 n).length
  let guess := size num - size den
  let (below, above) := scaleTen den guess
  if below ≤ num * above then guess else guess - 1

/-- The shortest decimal of a positive finite number: grids of one digit, two digits and so
on up to seventeen are tried, and the first that has a point in the interval wins. -/
def shortest (x : Binary64) : Decimal :=
  let (mantissa, power) := x.parts
  let (num, den) := scaleTwo mantissa power
  let lead := leadingPower num den
  let attempt (count : Nat) : Option Decimal :=
    (x.gridNeighbours (lead - count)).find? x.roundsTo
  ((List.range 17).findSome? attempt).getD ⟨0, 0⟩

/-- A decimal without zeros at the end of its digits. -/
def Decimal.strip (d : Decimal) : Decimal :=
  let rec go : Nat → Nat → Int → Decimal
    | 0, digits, exponent => ⟨digits, exponent⟩
    | fuel + 1, digits, exponent =>
        if digits ≠ 0 ∧ digits % 10 = 0 then go fuel (digits / 10) (exponent + 1)
        else ⟨digits, exponent⟩
  go 20 d.digits d.exponent

/-- How a format writes a double: whether a positive exponent carries its sign, and the words
for the numbers that have no digits. -/
structure Spelling where
  signedExponent : Bool
  infinityWord : String
  nanWord : String

/-- The text of a positive decimal: positional from five zeros after the point up to sixteen
digits before it, always with a point there, and with an exponent elsewhere. -/
def Decimal.text (spelling : Spelling) (d : Decimal) : String :=
  let digits := Nat.toDigits 10 d.digits
  let count : Int := digits.length
  let point := count + d.exponent
  let zeros (n : Int) : List Char := List.replicate n.toNat '0'
  if 0 ≤ d.exponent ∧ point ≤ 16 then
    String.ofList (digits ++ zeros d.exponent ++ ['.', '0'])
  else if 0 < point ∧ point ≤ 16 then
    String.ofList (digits.take point.toNat ++ ['.'] ++ digits.drop point.toNat)
  else if -5 < point ∧ point ≤ 0 then
    String.ofList (['0', '.'] ++ zeros (-point) ++ digits)
  else
    let power := point - 1
    let sign := if power < 0 then "-" else if spelling.signedExponent then "+" else ""
    let mantissa :=
      match digits with
      | [] => []
      | [digit] => [digit]
      | first :: rest => first :: '.' :: rest
    String.ofList mantissa ++ "e" ++ sign ++ toString power.natAbs

/-- The text of any double. -/
def text (spelling : Spelling) (x : Binary64) : String :=
  if x.isNan then spelling.nanWord
  else
    let sign := if x.isNegative then "-" else ""
    if !x.isFinite then sign ++ spelling.infinityWord
    else if x.isZero then sign ++ "0.0"
    else sign ++ (x.shortest.strip).text spelling

end Runbook.Binary64
