/-!
# Binary floating-point numbers of 64 bits

A finite number of this format is a sign and a magnitude, and a magnitude is a whole number of
*units* of size `2 ^ (-1074)`, written as a mantissa of at most 53 bits times a power of two.  The
smallest exponent that fits is the canonical one, so equal magnitudes are equal values of the type.

`ofQuotient` rounds an exact quotient to the nearest number, a tie going to the even mantissa and a
result beyond the largest finite number to infinity.  All of it is natural-number arithmetic.
-/

namespace Remittance.Numeral

/-- The format counts magnitudes in units of `2 ^ (-unitExponent)`. -/
def unitExponent : Nat := 1074

/-- The number of units in one. -/
def unitsInOne : Nat := Nat.pow 2 unitExponent

/-- Mantissas are below this number, two to the power of 53. -/
def mantissaLimit : Nat := 0x20000000000000

/-- Mantissas with an exponent are at least this number, two to the power of 52. -/
def mantissaLeast : Nat := 0x10000000000000

/-- Exponents reach up to this number. -/
def exponentMost : Nat := 2045

/-- The magnitude of a finite number: `mantissa * 2 ^ exponent` units. -/
structure Magnitude where
  mantissa : Nat
  exponent : Nat
  /-- The mantissa has at most 53 bits, the exponent is in range, and only the exponent zero has
  mantissas of fewer bits. -/
  canonical : mantissa < mantissaLimit ∧ exponent ≤ exponentMost ∧
    (exponent = 0 ∨ mantissaLeast ≤ mantissa)
deriving DecidableEq

namespace Magnitude

/-- The magnitude with the given mantissa and exponent, if they are canonical. -/
def of? (mantissa exponent : Nat) : Option Magnitude :=
  if h : mantissa < mantissaLimit ∧ exponent ≤ exponentMost ∧
      (exponent = 0 ∨ mantissaLeast ≤ mantissa) then
    some ⟨mantissa, exponent, h⟩
  else none

/-- The magnitude with a rounded mantissa, if it is in range.  Rounding may have made the mantissa one
bit longer than it can be. -/
def ofRounded? (mantissa exponent : Nat) : Option Magnitude :=
  if mantissa = mantissaLimit then of? mantissaLeast (exponent + 1) else of? mantissa exponent

/-- The size of the magnitude in units. -/
def units (x : Magnitude) : Nat :=
  x.mantissa * Nat.pow 2 x.exponent

/-- The largest whole number that is the size of a magnitude. -/
def largest : Nat :=
  (mantissaLimit - 1) * Nat.pow 2 971

end Magnitude

/-- A number of the format, or one of its exceptional values. -/
inductive Binary64 where
  | nan
  | infinite (negative : Bool)
  | finite (negative : Bool) (magnitude : Magnitude)
deriving DecidableEq

/-- The quotient rounded to the nearest natural number, a tie going to the even one. -/
def roundHalfEven (numerator denominator : Nat) : Nat :=
  let floor := numerator / denominator
  let excess := 2 * (numerator % denominator)
  if excess < denominator then floor
  else if denominator < excess then floor + 1
  else if floor % 2 = 0 then floor
  else floor + 1

namespace Binary64

/-- The finite number with the magnitude, or infinity if there is none. -/
def ofMagnitude? (negative : Bool) : Option Magnitude → Binary64
  | some magnitude => .finite negative magnitude
  | none => .infinite negative

/-- The number nearest to a signed quotient of natural numbers. -/
def ofQuotient (negative : Bool) (numerator denominator : Nat) : Binary64 :=
  let scaled := numerator * unitsInOne
  let exponent := Nat.log2 (scaled / denominator) - 52
  let mantissa := roundHalfEven scaled (denominator * Nat.pow 2 exponent)
  ofMagnitude? negative (Magnitude.ofRounded? mantissa exponent)

/-- Whether the number is neither infinite nor the undefined value. -/
def isFinite : Binary64 → Bool
  | .finite _ _ => true
  | _ => false

/-- The integer that a finite number without a fractional part is equal to. -/
def toInt? : Binary64 → Option Int
  | .finite negative x =>
    if x.units % unitsInOne = 0 then
      let size := x.units / unitsInOne
      some (if negative then -(size : Int) else size)
    else none
  | _ => none

end Binary64

end Remittance.Numeral
