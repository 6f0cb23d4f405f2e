import Remittance.Numeral.Binary64
import Remittance.Numeral.Digits
import Remittance.Text.Blank
import Remittance.Text.Upper

/-!
# Decimal numbers in text

A `Decimal` is a signed coefficient times a power of ten.  `Decimal.read?` reads one from an
optional sign, digits with an optional point among or beside them, and an optional exponent;
`Decimal.nearest` is the closest number of the 64-bit format.

`Binary64.ofText?` is the whole syntax of a floating-point number in text: a decimal, or one of the
words for infinity and for the undefined value in any letter case.  `Binary64.read?` also takes
blanks on either side.
-/

namespace Remittance.Numeral

/-- The number `± coefficient * 10 ^ exponent`. -/
structure Decimal where
  negative : Bool
  coefficient : Nat
  exponent : Int
deriving DecidableEq

namespace Decimal

/-- The nearest number of the format.  An exponent beyond 400, or so low that even the bits of the
coefficient leave the value below `10 ^ (-399)`, decides the result by itself, and no power of ten
is computed for it. -/
def nearest (d : Decimal) : Binary64 :=
  if d.coefficient = 0 then .ofQuotient d.negative 0 1
  else if 400 < d.exponent then .infinite d.negative
  else if d.exponent < -(400 + Nat.log2 d.coefficient : Int) then .ofQuotient d.negative 0 1
  else if 0 ≤ d.exponent then .ofQuotient d.negative (d.coefficient * Nat.pow 10 d.exponent.toNat) 1
  else .ofQuotient d.negative d.coefficient (Nat.pow 10 (-d.exponent).toNat)

/-- The exponent at the end of a decimal number: nothing, or an `e` of either case, an optional sign
and digits. -/
def readExponent? : List Char → Option Int
  | [] => some 0
  | e :: rest => if e = 'e' ∨ e = 'E' then readInteger? rest else none

/-- The digits after the point, if there is a point, and the text after them. -/
def takeFraction : List Char → List Char × List Char
  | '.' :: rest => rest.span isDecimalDigit
  | cs => ([], cs)

/-- Reads a decimal number that is the whole of the text. -/
def read? (cs : List Char) : Option Decimal := do
  let (negative, unsigned) := takeSign cs
  let (whole, tail) := unsigned.span isDecimalDigit
  let (fraction, tail) := takeFraction tail
  let coefficient ← readDigits? 10 (whole ++ fraction)
  let exponent ← readExponent? tail
  some ⟨negative, coefficient, exponent - fraction.length⟩

end Decimal

namespace Binary64

/-- The value of a word that stands for infinity or for the undefined value. -/
def ofWord? (negative : Bool) (word : List Char) : Option Binary64 :=
  let lower := word.map Text.lowerAscii
  if lower = "inf".toList ∨ lower = "infinity".toList then some (.infinite negative)
  else if lower = "nan".toList then some .nan
  else none

/-- The floating-point number that is the whole of a text. -/
def ofText? (cs : List Char) : Option Binary64 :=
  let (negative, unsigned) := takeSign cs
  match ofWord? negative unsigned with
  | some x => some x
  | none => (Decimal.read? cs).map Decimal.nearest

/-- Reads a floating-point number with blanks on either side. -/
def read? (cs : List Char) : Option Binary64 :=
  ofText? (Text.trimWith Text.isAsciiBlank cs)

end Binary64

end Remittance.Numeral
