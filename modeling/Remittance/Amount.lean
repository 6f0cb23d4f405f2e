import Remittance.Numeral.Shortest
import Remittance.Numeral.Whole

/-!
# Amounts

A `Number` is an exact integer or a number of the 64-bit format.  `Number.capture` takes the number
out of an amount word without judging it: the word may hold a decimal integer of either sign, an
unsigned integer in base 16, 8 or 2, or any floating-point text, and everything else is the
undefined number.  Captured numbers are in a normal form: a floating-point number that equals an
integer becomes that integer, and an integer beyond the largest finite number becomes infinite.

A `Scalar` is what a caller may put where an amount belongs: a number, or a truth value, a text or
nothing at all, which are never amounts but have a text in messages.
-/

namespace Remittance

open Numeral

/-- A number as the library computes with it. -/
inductive Number where
  | whole (n : Int)
  | binary (x : Binary64)
deriving DecidableEq

namespace Number

/-- The text of a number in messages, as far as it can be written. -/
def text : Number → String
  | .whole n => integer n
  | .binary x => x.text

/-- Whether the number is neither infinite nor undefined. -/
def isFinite : Number → Bool
  | .whole _ => true
  | .binary x => x.isFinite

/-- Whether the text of the number can be written: an integer may have too many digits for it. -/
def isWritable : Number → Bool
  | .whole n => Numeral.isWritable n
  | .binary _ => true

/-- An integer beyond the largest finite floating-point number becomes infinite. -/
def ofInteger (n : Int) : Number :=
  if Magnitude.largest < n.natAbs then .binary (.infinite (decide (n < 0))) else .whole n

/-- A floating-point number that equals an integer becomes that integer. -/
def ofBinary (x : Binary64) : Number :=
  match x.toInt? with
  | some n => .whole n
  | none => .binary x

/-- Whether the word is an optionally signed run of decimal digits. -/
def isDecimalInteger (cs : List Char) : Bool :=
  let digits := (takeSign cs).2
  !digits.isEmpty && digits.all isDecimalDigit

/-- The number of an integer in base 16, 8 or 2, written with the mark of its base. -/
def readMarked? : List Char → Option Nat
  | '0' :: mark :: digits =>
    if mark = 'x' ∨ mark = 'X' then readDigits? 16 digits
    else if mark = 'o' ∨ mark = 'O' then readDigits? 8 digits
    else if mark = 'b' ∨ mark = 'B' then readDigits? 2 digits
    else none
  | _ => none

/-- The number of a floating-point text; text that is none gives the undefined number. -/
def ofFloatText (cs : List Char) : Number :=
  match Binary64.read? cs with
  | some x => ofBinary x
  | none => .binary .nan

/-- The number of a decimal integer.  Up to the digit limit it is exact; beyond the limit the text
is read as a floating-point number. -/
def ofDecimalInteger (cs : List Char) : Number :=
  if digitLimit < (takeSign cs).2.length then ofFloatText cs
  else
    match readInteger? cs with
    | some n => ofInteger n
    | none => ofFloatText cs

/-- The number that an amount word stands for.  Words with a character beyond ASCII or with an
underscore stand for none. -/
def capture (word : String) : Number :=
  let cs := word.toList
  if cs.any fun c => 127 < c.toNat || c == '_' then .binary .nan
  else if isDecimalInteger cs then ofDecimalInteger cs
  else
    match readMarked? cs with
    | some n => ofInteger n
    | none => ofFloatText cs

end Number

/-- What a caller may put where an amount belongs. -/
inductive Scalar where
  | number (n : Number)
  | flag (b : Bool)
  | text (s : String)
  | absent
deriving DecidableEq

namespace Scalar

/-- The integer `n` as a scalar. -/
def whole (n : Int) : Scalar :=
  .number (.whole n)

/-- The text of a scalar in messages, as far as it can be written. -/
def shown : Scalar → String
  | .number n => n.text
  | .flag b => if b then "True" else "False"
  | .text s => s
  | .absent => "None"

/-- Whether the text of a scalar can be written. -/
def isWritable : Scalar → Bool
  | .number n => n.isWritable
  | _ => true

/-- The amount that a scalar is, if it is one: an integer of at least one. -/
def positive? : Scalar → Option Int
  | .number (.whole n) => if 1 ≤ n then some n else none
  | _ => none

end Scalar

end Remittance
