import Remittance.Json.Writer
import Remittance.Report
import Remittance.Schema.Violation

/-!
# Notices

A request that is turned down is answered by a notice, which is a JSON value.  The notice of a
failure is its context, beside its message and its code; the notice of violations repeats for each
of them what was given at the place at fault.
-/

namespace Remittance

namespace Json

/-! ## What is repeated -/

mutual

/-- A value as notices repeat it, without the members whose names start with `_sa`. -/
def repeated : Json → Json
  | .array items => .array (repeatedItems items)
  | .object members => .object (repeatedMembers members)
  | value => value

/-- Some items as notices repeat them. -/
def repeatedItems : List Json → List Json
  | [] => []
  | item :: later => item.repeated :: repeatedItems later

/-- Some members as notices repeat them. -/
def repeatedMembers : List (String × Json) → List (String × Json)
  | [] => []
  | (name, value) :: later =>
    if name.startsWith "_sa" then repeatedMembers later
    else (name, value.repeated) :: repeatedMembers later

end

/-- A value with the ends trimmed if it is text. -/
def trimmed : Json → Json
  | .string s => .string (Text.trim s)
  | .brokenString s => .brokenString (Text.trim s)
  | value => value

/-- The value that is null if there is none. -/
def orNull {α : Type} (f : α → Json) : Option α → Json
  | some a => f a
  | none => .null

end Json

/-! ## Violations -/

/-- The fields of text that is trimmed before it is checked. -/
def trimmedFields : List String :=
  ["id", "currency", "instruction"]

/-- A step of a path as notices show it. -/
def Step.notice : Step → Json
  | .field name => .string name
  | .index i => .integer i

/-- What a cause sets as the bounds of the value, by name. -/
def Cause.bounds : Cause → List (String × Json)
  | .emptyText => [("min_length", .integer 1)]
  | .below least => [("ge", .integer least)]
  | _ => []

namespace Violation

/-- What was given at the place of a violation. -/
def given (payload : Json) (v : Violation) : Json :=
  let part := (v.part? payload).getD .null
  match v.path.getLast? with
  | some (.field name) => if trimmedFields.contains name then part.trimmed else part
  | _ => part

/-- The notice of a violation of the given payload, which is the body of a request. -/
def notice (payload : Json) (v : Violation) : Json :=
  let bounds : List (String × Json) :=
    if v.cause.bounds.isEmpty then [] else [("ctx", .object v.cause.bounds)]
  .object ([
    ("type", .string v.cause.tag),
    ("loc", .array (.string "body" :: v.path.map Step.notice)),
    ("msg", .string v.cause.message),
    ("input", (v.given payload).repeated)] ++ bounds)

/-- The notice of all violations of a payload. -/
def noticeOfAll (payload : Json) (found : List Violation) : Json :=
  .object [("detail", .array (found.map (notice payload)))]

end Violation

/-! ## Failures -/

/-- A number as notices show it. -/
def Number.notice : Number → Json
  | .whole n => .integer n
  | .binary x => .float x

/-- An entry as notices show it. -/
def Entry.notice (e : Entry) : Json :=
  .object [("id", .string e.id), ("balance", .integer e.balance),
    ("balance_before", .integer e.balanceBefore), ("currency", .string e.currency)]

/-- A context as notices show it. -/
def FailureContext.notice (c : FailureContext) : Json :=
  let text := Json.orNull Json.string
  .object [("type", text c.kind), ("amount", Json.orNull Number.notice c.amount),
    ("currency", text c.currency), ("debit_account", text c.debit),
    ("credit_account", text c.credit), ("execute_by", text c.executeBy),
    ("status", .string c.status.word), ("status_reason", .string c.reason),
    ("status_code", .string c.code), ("accounts", .array (c.accounts.map Entry.notice))]

/-- The notice of a failure. -/
def Failure.notice (f : Failure) : Json :=
  .object [("message", .string f.message), ("status_code", .string f.code.code),
    ("context", f.context.notice)]

end Remittance
