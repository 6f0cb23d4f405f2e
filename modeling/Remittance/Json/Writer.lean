import Remittance.Json
import Remittance.Text.Quoted

/-!
# Writing JSON

`Json.written` is the text of a value, without white space between its parts.  Strings are written
with the escapes that they cannot do without and with all other characters as they are, and
floating-point numbers with the fewest digits that read back.

There are values that cannot be written, for one of the reasons in `WriteFault`.
-/

namespace Remittance.Json

/-- A character as it is written in a string. -/
def escaped (c : Char) : List Char :=
  if c = '\x22' ∨ c = '\\' then ['\\', c]
  else if c = '\n' then ['\\', 'n']
  else if c = '\x0d' then ['\\', 'r']
  else if c = '\t' then ['\\', 't']
  else if c = '\x08' then ['\\', 'b']
  else if c = '\x0c' then ['\\', 'f']
  else if c.toNat < 0x20 then '\\' :: 'u' :: Text.hexDigits 4 c.toNat
  else [c]

/-- A string between its quotes. -/
def writtenString (s : String) : List Char :=
  '\x22' :: s.toList.flatMap escaped ++ ['\x22']

mutual

/-- The text of a value. -/
def written : Json → List Char
  | .null => "null".toList
  | .bool b => (if b then "true" else "false").toList
  | .integer n => (Numeral.integer n).toList
  | .float x => x.text.toList
  | .string s => writtenString s
  | .brokenString s => writtenString s
  | .array items => '[' :: [','].intercalate (writtenItems items) ++ [']']
  | .object members => '\x7b' :: [','].intercalate (writtenMembers members) ++ ['\x7d']

/-- The texts of some items. -/
def writtenItems : List Json → List (List Char)
  | [] => []
  | item :: later => item.written :: writtenItems later

/-- The texts of some members. -/
def writtenMembers : List (String × Json) → List (List Char)
  | [] => []
  | (name, value) :: later =>
    (writtenString name ++ ':' :: value.written) :: writtenMembers later

end

end Remittance.Json

namespace Remittance

/-- Why a value cannot be written. -/
inductive WriteFault where
  /-- A number in it is infinite or undefined. -/
  | notFinite
  /-- An integer in it has more digits than are written. -/
  | tooManyDigits
deriving DecidableEq

/-- The message of a fault. -/
def WriteFault.message : WriteFault → String
  | .notFinite => "Out of range float values are not JSON compliant"
  | .tooManyDigits => Numeral.digitLimitMessage none

/-- What stands in the way of writing a value. -/
def Json.writeFault? (value : Json) : Option WriteFault :=
  if !value.isFinite then some .notFinite
  else if !value.allNumbers Number.isWritable then some .tooManyDigits
  else none

end Remittance
