/-!
# Positional digits

`digit?` reads one digit of a base up to sixteen, `ofDigits` gives the value of a list of digits,
most significant first, and `natural` and `integer` write a number in decimal.
-/

namespace Remittance.Numeral

/-- The value of an ASCII digit or letter of either case as a digit of the base. -/
def digit? (base : Nat) (c : Char) : Option Nat :=
  let value :=
    if '0' ≤ c ∧ c ≤ '9' then c.toNat - 48
    else if 'a' ≤ c ∧ c ≤ 'z' then c.toNat - 87
    else if 'A' ≤ c ∧ c ≤ 'Z' then c.toNat - 55
    else base
  if value < base then some value else none

/-- Whether the character is an ASCII decimal digit. -/
def isDecimalDigit (c : Char) : Bool :=
  (digit? 10 c).isSome

/-- The number that a list of digit values stands for, the most significant first. -/
def ofDigits (base : Nat) (digits : List Nat) : Nat :=
  digits.foldl (fun value digit => value * base + digit) 0

/-- The number that a text of digits stands for; `none` if the text is empty or holds another
character. -/
def readDigits? (base : Nat) (cs : List Char) : Option Nat :=
  if cs.isEmpty then none else (cs.mapM (digit? base)).map (ofDigits base)

/-- An optional sign, as whether it is a minus, and the text after it. -/
def takeSign : List Char → Bool × List Char
  | '-' :: rest => (true, rest)
  | '+' :: rest => (false, rest)
  | cs => (false, cs)

/-- The number with the given sign and absolute value. -/
def withSign (negative : Bool) (value : Nat) : Int :=
  if negative then -(value : Int) else value

/-- Reads an optionally signed run of decimal digits. -/
def readInteger? (cs : List Char) : Option Int :=
  let (negative, digits) := takeSign cs
  (readDigits? 10 digits).map (withSign negative)

/-- The decimal digits of a natural number, without leading zeros. -/
def natural (n : Nat) : List Char :=
  Nat.toDigits 10 n

/-- The decimal text of an integer. -/
def integer (n : Int) : String :=
  String.ofList (if n < 0 then '-' :: natural n.natAbs else natural n.natAbs)

/-- The decimal digits of a natural number, with zeros in front up to the given width. -/
def padded (width n : Nat) : List Char :=
  let digits := natural n
  List.replicate (width - digits.length) '0' ++ digits

end Remittance.Numeral
