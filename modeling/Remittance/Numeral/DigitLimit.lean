import Remittance.Numeral.Digits

/-!
# The digit limit

Integers pass between numbers and decimal text only up to `digitLimit` digits: a longer text is not
read as an integer, and a longer integer is not written.  `digitLimitMessage` is what is said of
either.
-/

namespace Remittance.Numeral

/-- Integers are read from decimal text, and written as decimal text, with at most this many
digits. -/
def digitLimit : Nat := 4300

/-- Whether an integer has no more digits than are written. -/
def isWritable (n : Int) : Bool :=
  (natural n.natAbs).length ≤ digitLimit

/-- The message about an integer with too many digits.  The digits are counted only if they were to
be read. -/
def digitLimitMessage (count? : Option Nat) : String :=
  let counted := match count? with
    | some count => ": value has " ++ String.ofList (natural count) ++ " digits"
    | none => ""
  "Exceeds the limit (" ++ String.ofList (natural digitLimit) ++
    " digits) for integer string conversion" ++ counted ++
    "; use sys.set_int_max_str_digits() to increase the limit"

end Remittance.Numeral
