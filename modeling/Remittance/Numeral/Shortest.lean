import Remittance.Numeral.Decimal

/-!
# Shortest decimal text of a floating-point number

`Magnitude.shortest` is the decimal number with the fewest digits that reads back as the magnitude
and, of those, the closest to it.  For each number of digits from 1 to 17 only the two neighbours of
the magnitude on the grid of that many digits can do, because a grid point that rounds to the
magnitude lies no further from it than the neighbour on the same side.  Were none of them to do, the
exact expansion, which always reads back, would be taken.

`Binary64.text` lays the digits out: positionally when the point falls at most three places before
the first digit and at most sixteen after it, and always with a digit on both sides of the point;
otherwise with one digit before the point and an exponent of at least two digits.
-/

namespace Remittance.Numeral

namespace Magnitude

/-- The magnitude in units of `10 ^ (-1074)`, of which it is always a whole number. -/
def decimalUnits (x : Magnitude) : Nat :=
  x.units * Nat.pow 5 unitExponent

/-- Whether a coefficient and exponent read back as the magnitude. -/
def readsBack (x : Magnitude) (coefficient : Nat) (exponent : Int) : Bool :=
  Decimal.nearest ⟨false, coefficient, exponent⟩ == .finite false x

/-- The coefficient next to the magnitude on the grid of step `10 ^ dropped` decimal units that
reads back as the magnitude: of two the closer, and of two equally close the even one. -/
def neighbour? (x : Magnitude) (dropped : Nat) : Option Nat :=
  let step := Nat.pow 10 dropped
  let exponent : Int := dropped - unitExponent
  let below := x.decimalUnits / step
  let excess := 2 * (x.decimalUnits % step)
  let closer :=
    if excess < step then below
    else if step < excess then below + 1
    else if below % 2 = 0 then below
    else below + 1
  let other := if closer = below then below + 1 else below
  if x.readsBack closer exponent then some closer
  else if x.readsBack other exponent then some other
  else none

/-- The coefficient and exponent of the shortest decimal number that reads back: the hit on the first
grid that has one, from the grid of one digit on.  As many powers of ten go into the step of a grid
as digits of the exact expansion are dropped. -/
def shortest (x : Magnitude) : Nat × Int :=
  let size := (natural x.decimalUnits).length
  let hit? := (List.range' 1 17).findSome? fun count =>
    let dropped := size - count
    (x.neighbour? dropped).map fun coefficient => (coefficient, (dropped - unitExponent : Int))
  hit?.getD (x.decimalUnits, -unitExponent)

end Magnitude

/-- Where positional text ends and how wide an exponent is. -/
structure Layout where
  /-- The lowest place of the point, counted from before the first digit, for positional text. -/
  lowestPoint : Int
  /-- The highest such place. -/
  highestPoint : Int
  /-- The least number of digits of an exponent. -/
  exponentWidth : Nat

/-- Positional text reaches from four zeros after the point to sixteen digits before it. -/
def Layout.standard : Layout := ⟨-3, 16, 2⟩

namespace Layout

/-- Digits with the point after the first `point` of them, and zeros where digits are missing. -/
def positional (digits : List Char) (point : Int) : List Char :=
  if point ≤ 0 then '0' :: '.' :: (List.replicate (-point).toNat '0' ++ digits)
  else if digits.length ≤ point.toNat then
    digits ++ List.replicate (point.toNat - digits.length) '0' ++ ['.', '0']
  else digits.take point.toNat ++ '.' :: digits.drop point.toNat

/-- One digit, the point before the others if there are any, and the exponent with its sign. -/
def scientific (layout : Layout) (digits : List Char) (point : Int) : List Char :=
  let fraction := digits.drop 1
  let exponent := point - 1
  digits.take 1 ++ (if fraction.isEmpty then [] else '.' :: fraction) ++
    'e' :: (if exponent < 0 then '-' else '+') :: padded layout.exponentWidth exponent.natAbs

/-- The digits of a number whose point is after the first `point` of them. -/
def write (layout : Layout) (digits : List Char) (point : Int) : List Char :=
  if layout.lowestPoint ≤ point ∧ point ≤ layout.highestPoint then positional digits point
  else layout.scientific digits point

end Layout

/-- The digits without the zeros at their end. -/
def significant (digits : List Char) : List Char :=
  (digits.reverse.dropWhile (· == '0')).reverse

/-- The text of a magnitude: zero has one digit, every other one its shortest digits without the
zeros at their end. -/
def Magnitude.text (x : Magnitude) : List Char :=
  if x.mantissa = 0 then Layout.standard.write ['0'] 1
  else
    let (coefficient, exponent) := x.shortest
    let digits := natural coefficient
    Layout.standard.write (significant digits) (digits.length + exponent)

/-- The text of a floating-point number. -/
def Binary64.text : Binary64 → String
  | .nan => "nan"
  | .infinite negative => if negative then "-inf" else "inf"
  | .finite negative x => String.ofList (if negative then '-' :: x.text else x.text)

end Remittance.Numeral
