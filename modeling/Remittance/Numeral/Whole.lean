import Remittance.Numeral.DigitLimit
import Remittance.Text.Blank
import Remittance.Text.Digit

/-!
# Integers with underscores

Single underscores may stand between the digits of an integer in a text: `groups` are the pieces
between them, and `isGrouped` says that no underscore is in another place.

`readWhole` reads the integer that a setting or the port number of an address gives as text: white
space on either side, an optional sign, and decimal digits of any script.  No text with more than
`digitLimit` digits is read.
-/

namespace Remittance.Numeral

/-- Why a text is not read as an integer. -/
inductive WholeError where
  /-- The text is not written as an integer. -/
  | unreadable
  /-- The text has this many digits, more than are read. -/
  | tooLong (count : Nat)
deriving DecidableEq

/-- The pieces of a text between its underscores. -/
def groups (cs : List Char) : List (List Char) :=
  cs.splitOn '_'

/-- Whether the text is not empty and has single underscores between other characters only. -/
def isGrouped (cs : List Char) : Bool :=
  (groups cs).all (!·.isEmpty)

/-- The text without its underscores, if they stand between other characters. -/
def ungrouped? (cs : List Char) : Option (List Char) :=
  if isGrouped cs then some (groups cs).flatten else none

/-- Reads an integer in digits of any script.  The digits are counted on the run of digits and
underscores before anything after it is looked at. -/
def readWhole (s : String) : Except WholeError Int :=
  let body := Text.trimWith Text.isWhiteSpace s.toList
  let (negative, unsigned) := takeSign body
  let (run, tail) := unsigned.span fun c => c == '_' || (Text.decimalDigit? c).isSome
  match ungrouped? run with
  | none => .error .unreadable
  | some digits =>
    if digitLimit < digits.length then .error (.tooLong digits.length)
    else
      match digits.mapM Text.decimalDigit?, tail with
      | some values, [] => .ok (withSign negative (ofDigits 10 values))
      | _, _ => .error .unreadable

end Remittance.Numeral
