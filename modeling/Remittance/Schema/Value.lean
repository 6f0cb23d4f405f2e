import Remittance.Numeral.Field
import Remittance.Schema.Violation
import Remittance.Text.Upper

/-!
# Checks of values

The checks that the fields of a payload are put to.  Text is never taken for another type and
nothing is ever taken for text, but an integer may also be given as a truth value, as a
floating-point number without a fraction, or as text.
-/

namespace Remittance

namespace Json

/-- The members of a record. -/
def checkRecord (intake : Intake) (record : String) : Json → Checked (List (String × Json))
  | .object members => .ok members
  | _ => match intake with
    | .direct => .fail (.notRecord record)
    | .web => .fail .notObject

/-- A field that must be present. -/
def checkField {α : Type} (name : String) (check : Json → Checked α)
    (members : List (String × Json)) : Checked α :=
  .under (.field name) <|
    match member? name members with
    | some value => check value
    | none => .fail .missing

/-- A field that may be left out. -/
def checkOptional {α : Type} (name : String) (default : α) (check : Json → Checked α)
    (members : List (String × Json)) : Checked α :=
  match member? name members with
  | some value => .under (.field name) (check value)
  | none => .ok default

/-- Any text. -/
def checkText : Json → Checked String
  | .string s => .ok s
  | .brokenString _ => .fail .brokenText
  | _ => .fail .notText

/-- Text that is not empty once its ends are trimmed. -/
def checkTrimmed : Json → Checked String
  | .string s =>
    let trimmed := Text.trim s
    if trimmed.isEmpty then .fail .emptyText else .ok trimmed
  | .brokenString _ => .fail .brokenText
  | _ => .fail .notText

/-- A currency: text, trimmed and in upper case.  Only here may lone surrogates be in a text. -/
def checkCurrency : Json → Checked String
  | .string s => .ok (Text.upper (Text.trim s))
  | .brokenString s => .ok (Text.upper (Text.trim s))
  | _ => .fail .notText

/-- Floating-point numbers count as integers below this size. -/
def floatIntegerLimit : Nat := Nat.pow 2 63

/-- The integer that a text field gives. -/
def checkIntegerText (s : String) : Checked Int :=
  match Numeral.readFieldInteger s with
  | .ok n => .ok n
  | .error .unreadable => .fail .unreadableInteger
  | .error (.tooLong _) => .fail .oversizedInteger

/-- An integer, or what counts as one. -/
def checkInteger : Json → Checked Int
  | .integer n => .ok n
  | .bool b => .ok (if b then 1 else 0)
  | .float x =>
    if !x.isFinite then .fail .notFinite
    else
      match x.toInt? with
      | some n => if n.natAbs < floatIntegerLimit then .ok n else .fail .oversizedInteger
      | none => .fail .fractional
  | .string s => checkIntegerText s
  | .brokenString _ => .fail .brokenText
  | _ => .fail .notInteger

/-- An integer of at least the given size. -/
def checkAtLeast (least : Int) (value : Json) : Checked Int :=
  match checkInteger value with
  | .ok n => if n < least then .fail (.below least) else .ok n
  | .error e => .error e

/-- A list with the given check for each item. -/
def checkList {α : Type} (check : Json → Checked α) : Json → Checked (List α)
  | .array items => .items check 0 items
  | _ => .fail .notList

end Json

end Remittance
