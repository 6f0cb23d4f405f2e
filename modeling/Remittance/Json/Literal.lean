import Remittance.Json
import Remittance.Text.Encoding

/-!
# JSON literals

The parts of a JSON text that hold no other values: strings, numbers and words.  Every reader takes
a text and gives back the rest after what it read.  A text that cannot be read is refused with the
rest at the fault, the first character that cannot go on or the opening quote of a string that does
not end, so that its offset can be told from the length of the rest.
-/

namespace Remittance.Json

open Numeral Text

/-- Why a text is not read. -/
inductive ReadError where
  /-- The text cannot go on as this rest does. -/
  | unexpected (rest : List Char)
  /-- An integer has more digits than are read. -/
  | integerTooLong
  /-- Arrays and objects are nested more deeply than is read. -/
  | tooDeep
deriving DecidableEq

/-- Drops the white space that may stand between the parts of a value. -/
def skipBlank (cs : List Char) : List Char :=
  cs.dropWhile fun c => c == ' ' || c == '\t' || c == '\n' || c == '\x0d'

/-- The rest of a text that starts with the given characters. -/
def after? : (lead cs : List Char) → Option (List Char)
  | [], cs => some cs
  | _ :: _, [] => none
  | a :: lead, c :: cs => if a = c then after? lead cs else none

/-! ## Strings -/

/-- The character that a letter after a backslash stands for. -/
def escapedChar? : Char → Option Char
  | '\x22' => some '\x22'
  | '\\' => some '\\'
  | '/' => some '/'
  | 'b' => some '\x08'
  | 'f' => some '\x0c'
  | 'n' => some '\n'
  | 'r' => some '\x0d'
  | 't' => some '\t'
  | _ => none

/-- The code unit of four hexadecimal digits and the text after them, which is never empty. -/
def takeUnit? : List Char → Option (Nat × List Char)
  | a :: b :: c :: d :: next :: rest =>
    (readDigits? 16 [a, b, c, d]).map fun code => (code, next :: rest)
  | _ => none

/-- The character of the code unit after `\u` and the text after it, where a surrogate pair takes
two of these escapes and a lone surrogate gives its stand-in. -/
def takeUnitChar? (standIns : StandIns) (cs : List Char) : Option (Char × List Char) := do
  let (high, rest) ← takeUnit? cs
  match rest with
  | '\\' :: 'u' :: tail =>
    if isHighSurrogate high then
      match takeUnit? tail with
      | some (low, rest') =>
        if isLowSurrogate low then
          some (pairChar high low, rest')
        else some (standIns.unitChar high, rest)
      | none => some (standIns.unitChar high, rest)
    else some (standIns.unitChar high, rest)
  | _ => some (standIns.unitChar high, rest)

/-- The characters that the escapes in a text stand for, where lone surrogates are replaced. -/
def escapedChars : List Char → List Char
  | [] => []
  | '\\' :: 'u' :: rest =>
    match takeUnitChar? .none rest with
    | some (char, _) => char :: escapedChars rest
    | none => escapedChars rest
  | _ :: rest => escapedChars rest

/-- Reads up to the closing quote.  `start` is the text from the opening quote on, `taken` holds the
characters read so far, the last first, and `fuel` bounds the characters still to be read. -/
def takeString (standIns : StandIns) (start : List Char) :
    (fuel : Nat) → (taken cs : List Char) → Except ReadError (String × List Char)
  | 0, _, _ => .error (.unexpected start)
  | _ + 1, _, [] => .error (.unexpected start)
  | fuel + 1, taken, c :: cs =>
    if c = '\x22' then .ok (String.ofList taken.reverse, cs)
    else if c = '\\' then
      match cs with
      | [] => .error (.unexpected start)
      | 'u' :: rest =>
        match takeUnitChar? standIns rest with
        | some (char, rest') => takeString standIns start fuel (char :: taken) rest'
        | none => .error (.unexpected cs)
      | letter :: rest =>
        match escapedChar? letter with
        | some char => takeString standIns start fuel (char :: taken) rest
        | none => .error (.unexpected (c :: cs))
    else if c.toNat < 0x20 then .error (.unexpected (c :: cs))
    else takeString standIns start fuel (c :: taken) cs

/-- The value of a string. -/
def ofString (standIns : StandIns) (s : String) : Json :=
  if s.toList.any standIns.contains then .brokenString s else .string s

/-! ## Numbers -/

/-- The integer part of a number: a zero, or digits that do not start with one. -/
def takeWhole? : List Char → Option (List Char × List Char)
  | '0' :: rest => some (['0'], rest)
  | cs =>
    let (digits, rest) := cs.span isDecimalDigit
    if digits.isEmpty then none else some (digits, rest)

/-- The fraction of a number, if a digit follows the point. -/
def takePoint (cs : List Char) : List Char × List Char :=
  match cs with
  | '.' :: rest =>
    let (digits, rest') := rest.span isDecimalDigit
    if digits.isEmpty then ([], cs) else ('.' :: digits, rest')
  | _ => ([], cs)

/-- The exponent of a number, if a digit follows its sign. -/
def takePower (cs : List Char) : List Char × List Char :=
  match cs with
  | e :: rest =>
    if e = 'e' ∨ e = 'E' then
      let (sign, tail) := match rest with
        | '+' :: tail => (['+'], tail)
        | '-' :: tail => (['-'], tail)
        | _ => ([], rest)
      let (digits, rest') := tail.span isDecimalDigit
      if digits.isEmpty then ([], cs) else (e :: sign ++ digits, rest')
    else ([], cs)
  | [] => ([], cs)

/-- Reads a number. -/
def takeNumber (cs : List Char) : Except ReadError (Json × List Char) :=
  let (negative, unsigned) := match cs with
    | '-' :: rest => (true, rest)
    | _ => (false, cs)
  match takeWhole? unsigned with
  | none => .error (.unexpected cs)
  | some (whole, rest) =>
    let (point, rest) := takePoint rest
    let (power, rest) := takePower rest
    if point.isEmpty && power.isEmpty then
      if digitLimit < whole.length then .error .integerTooLong
      else .ok (.integer (withSign negative ((readDigits? 10 whole).getD 0)), rest)
    else
      let text := (if negative then ['-'] else []) ++ whole ++ point ++ power
      .ok (.float ((Binary64.read? text).getD .nan), rest)

/-- The words that are values, with the value of each. -/
def valueWords : List (String × Json) :=
  [("null", .null), ("true", .bool true), ("false", .bool false), ("NaN", .float .nan),
    ("Infinity", .float (.infinite false)), ("-Infinity", .float (.infinite true))]

/-- Reads a word that is a value. -/
def takeWord? (cs : List Char) : Option (Json × List Char) :=
  valueWords.findSome? fun (word, value) => (after? word.toList cs).map (value, ·)

end Remittance.Json
