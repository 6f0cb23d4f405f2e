import Remittance.Numeral.Decimal
import Remittance.Numeral.Whole

/-!
# Numbers in text fields

A field of a payload may give its number as text.  `readFieldInteger` brings the text into a plain
form first: it takes white space off both ends and drops a plus sign, zeros in front, a fraction of
zeros and underscores between digits, and `readPlain?` then reads what is left.  Zeros in front may
stand before a minus sign as well as after it, and any number of underscores may stand among them.

`readFieldBinary?` reads a floating-point number, with white space on either side or with
underscores between other characters, but not with both.
-/

namespace Remittance.Numeral

/-- An optional minus sign, as whether it is there, and the text after it. -/
def takeMinus : List Char → Bool × List Char
  | '-' :: rest => (true, rest)
  | cs => (false, cs)

/-- Whether the text starts with zero and goes on. -/
def hasZeroInFront : List Char → Bool
  | '0' :: _ :: _ => true
  | _ => false

/-- Reads an integer in plain form: an optional minus sign and digits without zeros in front, at
most `digitLimit` of them. -/
def readPlain? (cs : List Char) : Option Int :=
  let (negative, digits) := takeMinus cs
  if hasZeroInFront digits || digitLimit < digits.length then none
  else (readDigits? 10 digits).map (withSign negative)

/-- The number of digits that a text in plain form starts with. -/
def plainDigits (cs : List Char) : Nat :=
  let digits := (takeMinus cs).2.takeWhile isDecimalDigit
  if hasZeroInFront digits then 1 else digits.length

/-- Drops zeros in front, and underscores after the first of them.  The last zero stays where no
other digit and no minus sign comes after them; a text that starts with anything but a digit is
refused. -/
def dropZerosInFront? : List Char → Option (List Char)
  | '0' :: cs =>
    let (front, rest) := cs.span fun c => c == '0' || c == '_'
    match rest with
    | c :: _ =>
      if isDecimalDigit c || c == '-' then some rest
      else if c == '.' && ('0' :: front).getLast? == some '0' then some ('0' :: rest)
      else none
    | [] => if ('0' :: front).getLast? == some '0' then some ['0'] else none
  | c :: cs => if isDecimalDigit c then some (c :: cs) else none
  | [] => none

/-- Drops a point and the zeros after it, if nothing else comes after the point. -/
def dropZeroFraction (cs : List Char) : List Char :=
  match cs.span (· != '.') with
  | (whole, '.' :: zeros) => if !zeros.isEmpty && zeros.all (· == '0') then whole else cs
  | _ => cs

/-- The plain form of an integer without its sign. -/
def unsignedPlain? (cs : List Char) : Option (List Char) :=
  (dropZerosInFront? cs).bind fun digits => ungrouped? (dropZeroFraction digits)

/-- The plain form of an integer in a text field. -/
def plain? (cs : List Char) : Option (List Char) :=
  match Text.trimWith Text.isWhiteSpace cs with
  | '-' :: unsigned => (unsignedPlain? unsigned).map ('-' :: ·)
  | '+' :: unsigned => unsignedPlain? unsigned
  | unsigned => unsignedPlain? unsigned

/-- Reads the integer that a text field gives.  A text that starts with too many digits is told
apart from other unreadable text only if it needs nothing taken off its front. -/
def readFieldInteger (s : String) : Except WholeError Int :=
  let count := plainDigits s.toList
  if digitLimit < count then .error (.tooLong count)
  else
    match (plain? s.toList).bind readPlain? with
    | some n => .ok n
    | none => .error .unreadable

/-- Reads the floating-point number that a text field gives. -/
def readFieldBinary? (s : String) : Option Binary64 :=
  let cs := s.toList
  match Binary64.ofText? (Text.trimWith Text.isWhiteSpace cs) with
  | some x => some x
  | none => (ungrouped? cs).bind Binary64.ofText?

end Remittance.Numeral
