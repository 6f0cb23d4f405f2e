import Remittance.Account
import Remittance.Schema.Value

/-!
# Requests

The two records of inbound payloads, accounts and requests.  Their checks put text in its normal
form: ends are trimmed, and currencies are in upper case.  `Request.payload` is the payload that a
request is checked from without any change.
-/

namespace Remittance

namespace Account

/-- The name of the record in violations. -/
def recordName : String := "Account"

/-- Checks an account. -/
def check (intake : Intake) (payload : Json) : Checked Account := do
  let members ← payload.checkRecord intake recordName
  let (id, balance, currency) ←
    .both (Json.checkField "id" Json.checkTrimmed members)
      (.both (Json.checkField "balance" (Json.checkAtLeast 0) members)
        (Json.checkField "currency" Json.checkCurrency members))
  .ok ⟨id, balance, currency⟩

/-- Checks the accounts of a list one after the other, as far as the first that is at fault. -/
def checkEach (intake : Intake) (payloads : List Json) : Checked (List Account) :=
  payloads.mapM (check intake)

/-- An account cannot be changed: to set any attribute is a violation. -/
def set (_ : Account) (name : String) : Checked Account :=
  .error [⟨[.field name], .frozen⟩]

end Account

/-- An inbound request: the accounts that the instruction may name, and its text. -/
structure Request where
  accounts : List Account
  text : String
deriving DecidableEq

namespace Request

/-- The name of the record in violations. -/
def recordName : String := "PaymentInstructionRequest"

/-- Checks a request. -/
def check (intake : Intake) (payload : Json) : Checked Request := do
  let members ← payload.checkRecord intake recordName
  let (accounts, text) ←
    .both (Json.checkField "accounts" (Json.checkList (Account.check intake)) members)
      (Json.checkField "instruction" Json.checkTrimmed members)
  .ok ⟨accounts, text⟩

/-- The payload that a request is checked from without any change. -/
def payload (r : Request) : Json :=
  .object [
    ("accounts", .array (r.accounts.map fun a =>
      .object [("id", .string a.id), ("balance", .integer a.balance),
        ("currency", .string a.currency)])),
    ("instruction", .string r.text)]

end Request

end Remittance
