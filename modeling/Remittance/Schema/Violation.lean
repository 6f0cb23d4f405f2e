import Remittance.Json

/-!
# Violations

A check of a payload does not stop at the first fault: it reports every `Violation`, in the order of
the fields, each with the path to the place at fault.  `Checked.both` and `Checked.items` put checks
side by side, and `Checked.under` places a check below a step of the path.

The `Intake` names the door that a payload came through, because the two word one violation
differently.
-/

namespace Remittance

/-- One step of the path to a place in a payload. -/
inductive Step where
  | field (name : String)
  | index (i : Nat)
deriving DecidableEq

/-- Where a payload comes from. -/
inductive Intake where
  /-- A record handed over by a caller of the library. -/
  | direct
  /-- The body of a web request. -/
  | web
deriving DecidableEq

/-- What is wrong at a place in a payload. -/
inductive Cause where
  | missing
  /-- Not an object, where the named record belongs. -/
  | notRecord (record : String)
  /-- Not an object, in the body of a web request. -/
  | notObject
  | notList
  | notText
  /-- Text with lone surrogates. -/
  | brokenText
  | emptyText
  | notInteger
  | fractional
  | oversizedInteger
  | unreadableInteger
  | unreadableNumber
  | notFinite
  /-- Below the least value allowed. -/
  | below (least : Int)
  | notStatus
  /-- An attribute of a record that never changes. -/
  | frozen
  | malformedJson
deriving DecidableEq

namespace Cause

/-- The tag of a cause. -/
def tag : Cause → String
  | .missing => "missing"
  | .notRecord _ => "model_type"
  | .notObject => "model_attributes_type"
  | .notList => "list_type"
  | .notText => "string_type"
  | .brokenText => "string_unicode"
  | .emptyText => "string_too_short"
  | .notInteger => "int_type"
  | .fractional => "int_from_float"
  | .oversizedInteger => "int_parsing_size"
  | .unreadableInteger => "int_parsing"
  | .unreadableNumber => "float_parsing"
  | .notFinite => "finite_number"
  | .below _ => "greater_than_equal"
  | .notStatus => "enum"
  | .frozen => "frozen_instance"
  | .malformedJson => "json_invalid"

/-- The message of a cause. -/
def message : Cause → String
  | .missing => "Field required"
  | .notRecord record => "Input should be a valid dictionary or instance of " ++ record
  | .notObject => "Input should be a valid dictionary or object to extract fields from"
  | .notList => "Input should be a valid list"
  | .notText => "Input should be a valid string"
  | .brokenText => "Input should be a valid string, unable to parse raw data as a unicode string"
  | .emptyText => "String should have at least 1 character"
  | .notInteger => "Input should be a valid integer"
  | .fractional => "Input should be a valid integer, got a number with a fractional part"
  | .oversizedInteger => "Unable to parse input string as an integer, exceeded maximum size"
  | .unreadableInteger =>
    "Input should be a valid integer, unable to parse string as an integer"
  | .unreadableNumber => "Input should be a valid number, unable to parse string as a number"
  | .notFinite => "Input should be a finite number"
  | .below least => "Input should be greater than or equal to " ++ Numeral.integer least
  | .notStatus => "Input should be 'successful', 'pending' or 'failed'"
  | .frozen => "Instance is frozen"
  | .malformedJson => "JSON decode error"

end Cause

/-- A fault of a payload and the path to it from the root. -/
structure Violation where
  path : List Step
  cause : Cause
deriving DecidableEq

/-- The same violation, seen from one step further out. -/
def Violation.under (step : Step) (v : Violation) : Violation :=
  { v with path := step :: v.path }

/-- The value at the end of a path into a payload. -/
def Json.at? : List Step → Json → Option Json
  | [], value => some value
  | .field name :: path, .object members => (member? name members).bind (at? path)
  | .index i :: path, .array items => items[i]?.bind (at? path)
  | _ :: _, _ => none

/-- The part of a payload that a violation is about.  A field that is missing is a fault of the
record around it. -/
def Violation.part? (payload : Json) (v : Violation) : Option Json :=
  payload.at? (if v.cause = .missing then v.path.dropLast else v.path)

/-- A checked value, or all violations that were found. -/
abbrev Checked (α : Type) := Except (List Violation) α

namespace Checked

/-- One violation at the place of the value itself. -/
def fail {α : Type} (cause : Cause) : Checked α :=
  .error [⟨[], cause⟩]

/-- The check of a part, seen from the whole. -/
def under {α : Type} (step : Step) (c : Checked α) : Checked α :=
  c.mapError fun violations => violations.map (·.under step)

/-- Two checks side by side: the violations of both, those of the first in front. -/
def both {α β : Type} (a : Checked α) (b : Checked β) : Checked (α × β) :=
  match a, b with
  | .ok x, .ok y => .ok (x, y)
  | .ok _, .error e => .error e
  | .error e, .ok _ => .error e
  | .error e, .error e' => .error (e ++ e')

/-- The checks of the items of a list, from the given index on. -/
def items {α : Type} (check : Json → Checked α) : (first : Nat) → List Json → Checked (List α)
  | _, [] => .ok []
  | i, item :: later =>
    (both (under (.index i) (check item)) (items check (i + 1) later)).map fun (a, as) => a :: as

end Checked

end Remittance
