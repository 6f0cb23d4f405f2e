import Remittance.Numeral.Binary64

/-!
# Arithmetic of the 64-bit format

Every finite number is a whole number of units, so sums and comparisons are exact until the result
is rounded back into the format.  `add` is the correctly rounded sum, `ofInteger?` the number
nearest to an integer if one is in range, and `exceeds` compares with an integer without rounding.
-/

namespace Remittance.Numeral.Binary64

/-- The units of a finite number, with its sign. -/
def signedUnits (negative : Bool) (x : Magnitude) : Int :=
  if negative then -(x.units : Int) else x.units

/-- The number nearest to a whole number of units; `negativeZero` is the sign of a zero result. -/
def ofUnits (negativeZero : Bool) (units : Int) : Binary64 :=
  ofQuotient (decide (units < 0) || (units == 0 && negativeZero)) units.natAbs unitsInOne

/-- The number nearest to an integer, if it is not beyond the range. -/
def ofInteger? (n : Int) : Option Binary64 :=
  match ofQuotient (decide (n < 0)) n.natAbs 1 with
  | .finite negative x => some (.finite negative x)
  | _ => none

/-- The number of the opposite sign. -/
def neg : Binary64 → Binary64
  | .nan => .nan
  | .infinite negative => .infinite (!negative)
  | .finite negative x => .finite (!negative) x

/-- The sum, rounded to the nearest number.  Opposite infinities have none. -/
def add : Binary64 → Binary64 → Binary64
  | .nan, _ => .nan
  | _, .nan => .nan
  | .infinite s, .infinite t => if s = t then .infinite s else .nan
  | .infinite s, .finite _ _ => .infinite s
  | .finite _ _, .infinite t => .infinite t
  | .finite s x, .finite t y => ofUnits (s && t) (signedUnits s x + signedUnits t y)

/-- Whether the number is greater than an integer; the undefined value is not. -/
def exceeds (n : Int) : Binary64 → Bool
  | .nan => false
  | .infinite negative => !negative
  | .finite negative x => decide (n * unitsInOne < signedUnits negative x)

end Remittance.Numeral.Binary64
