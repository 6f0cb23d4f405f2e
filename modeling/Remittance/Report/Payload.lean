import Remittance.Report
import Remittance.Schema.Value

/-!
# Reports given by callers

A caller may give the data of a report instead of having it made.  `FailureContext.check` makes a
context whose amount may be any scalar and refuses one that no context can report;
`Transaction.check` checks the payload of a whole transaction.
-/

namespace Remittance

/-! ## Failure contexts -/

namespace Scalar

/-- The violations of a context that would have to report the scalar: a text that gives no number is
neither of the two numbers that the amount of a context may be. -/
def violations : Scalar → List Violation
  | .text s =>
    match Json.checkIntegerText s, Numeral.readFieldBinary? s with
    | .error faults, none =>
      faults.map (fun v => ⟨[.field "amount", .field "int"], v.cause⟩) ++
        [⟨[.field "amount", .field "float"], .unreadableNumber⟩]
    | _, _ => []
  | _ => []

end Scalar

namespace FailureContext

/-- The context of a failure, or the violations if its amount cannot be reported. -/
def check {δ : Type} (code : StatusCode) (reason : String)
    (instruction : Option (Instruction Scalar δ)) (accounts : List Account) :
    Checked FailureContext :=
  match instruction with
  | some i =>
    if code.isSyntactic || i.amount.violations.isEmpty then
      .ok (describe code reason instruction accounts)
    else .error i.amount.violations
  | none => .ok (describe code reason instruction accounts)

end FailureContext

/-- The failure with the given code and message, or the violations if its context cannot be made. -/
def Failure.check {δ : Type} (code : StatusCode) (message : String)
    (instruction : Option (Instruction Scalar δ)) (accounts : List Account) : Checked Failure :=
  (FailureContext.check code message instruction accounts).map fun context =>
    ⟨code, message, context⟩

/-! ## Transactions that come as payloads -/

namespace Json

/-- The word of a status. -/
def checkStatus : Json → Checked Status
  | .string s => match Status.ofWord? s with
    | some status => .ok status
    | none => .fail .notStatus
  | _ => .fail .notStatus

/-- Text, or null for none. -/
def checkNullableText : Json → Checked (Option String)
  | .null => .ok none
  | value => (checkText value).map some

end Json

namespace Entry

/-- Checks an entry of a transaction. -/
def check (payload : Json) : Checked Entry := do
  let members ← payload.checkRecord .direct "AccountBalance"
  let (id, balance, balanceBefore, currency) ←
    .both (Json.checkField "id" Json.checkText members)
      (.both (Json.checkField "balance" Json.checkInteger members)
        (.both (Json.checkField "balance_before" Json.checkInteger members)
          (Json.checkField "currency" Json.checkText members)))
  .ok ⟨id, balance, balanceBefore, currency⟩

end Entry

namespace Transaction

/-- Checks a transaction that a caller reports. -/
def check (payload : Json) : Checked Transaction := do
  let members ← payload.checkRecord .direct "TransactionResult"
  let (kind, amount, currency, debit, credit, executeBy, status, code, accounts) ←
    .both (Json.checkField "type" Json.checkText members)
      (.both (Json.checkField "amount" Json.checkInteger members)
        (.both (Json.checkField "currency" Json.checkText members)
          (.both (Json.checkField "debit_account" Json.checkText members)
            (.both (Json.checkField "credit_account" Json.checkText members)
              (.both (Json.checkOptional "execute_by" none Json.checkNullableText members)
                (.both (Json.checkField "status" Json.checkStatus members)
                  (.both (Json.checkField "status_code" Json.checkText members)
                    (Json.checkOptional "accounts" [] (Json.checkList Entry.check) members))))))))
  .ok ⟨kind, amount, currency, debit, credit, executeBy, status, code, accounts⟩

end Transaction

end Remittance
