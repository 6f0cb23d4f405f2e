import Remittance.Numeral.Field
import Remittance.Rejection

/-!
# Reports

What becomes of an instruction is reported by one of two records of the same shape.  A `Transaction`
is the result of an instruction that was carried out, or set down for a later day.  A
`FailureContext` says what was known when an instruction was turned down; it comes inside a
`Failure`, beside the status code and the message.

Numbers that are infinite or undefined are not reported, and a context never shows an effect on a
balance.
-/

namespace Remittance

/-- The standing of a reported instruction. -/
inductive Status where
  | successful
  | pending
  | failed
deriving DecidableEq

namespace Status

/-- The word for a status. -/
def word : Status → String
  | .successful => "successful"
  | .pending => "pending"
  | .failed => "failed"

/-- The status with the given word. -/
def ofWord? (word : String) : Option Status :=
  [Status.successful, .pending, .failed].find? (·.word == word)

end Status

/-- The report of an instruction that was carried out or set down. -/
structure Transaction where
  kind : String
  amount : Int
  currency : String
  debit : String
  credit : String
  /-- The day for which the instruction is set down, in its written form. -/
  executeBy : Option String
  status : Status
  code : String
  accounts : List Entry
deriving DecidableEq

/-- Whether every number in the report can be written. -/
def Transaction.isWritable (t : Transaction) : Bool :=
  Numeral.isWritable t.amount &&
    t.accounts.all fun e => Numeral.isWritable e.balance && Numeral.isWritable e.balanceBefore

/-- The report of what was known when an instruction was turned down. -/
structure FailureContext where
  kind : Option String
  amount : Option Number
  currency : Option String
  debit : Option String
  credit : Option String
  executeBy : Option String
  status : Status
  reason : String
  code : String
  accounts : List Entry
deriving DecidableEq

/-- A rejection as callers see it. -/
structure Failure where
  code : StatusCode
  message : String
  context : FailureContext
deriving DecidableEq

/-! ## Failure contexts -/

namespace Scalar

/-- The number that a context reports for a scalar: a finite number itself, a truth value as zero or
one, and a text as the number that it gives. -/
def reported : Scalar → Option Number
  | .number n => if n.isFinite then some n else none
  | .flag b => some (.whole (if b then 1 else 0))
  | .text s =>
    match Numeral.readFieldInteger s with
    | .ok n => some (.whole n)
    | .error _ => (Numeral.readFieldBinary? s).map .binary
  | .absent => none

end Scalar

namespace FailureContext

/-- The context in which nothing is known but why the instruction was turned down. -/
def bare (code : StatusCode) (reason : String) : FailureContext where
  kind := none
  amount := none
  currency := none
  debit := none
  credit := none
  executeBy := none
  status := .failed
  reason
  code := code.code
  accounts := []

/-- The context of an instruction and the accounts found for it. -/
def ofInstruction {δ : Type} (code : StatusCode) (reason : String) (i : Instruction Scalar δ)
    (accounts : List Account) : FailureContext :=
  { bare code reason with
    kind := some i.kind.keyword
    amount := i.amount.reported
    currency := some i.currency
    debit := some i.debit
    credit := some i.credit
    accounts := accounts.map Account.unchanged }

/-- The context of a failure.  A code that says that the text could not be read, or the lack of an
instruction, leaves nothing to report. -/
def describe {δ : Type} (code : StatusCode) (reason : String)
    (instruction : Option (Instruction Scalar δ)) (accounts : List Account) : FailureContext :=
  match instruction with
  | some i => if code.isSyntactic then bare code reason else ofInstruction code reason i accounts
  | none => bare code reason

end FailureContext

namespace Failure

/-- The failure with the given code and message, in its context. -/
def describe {δ : Type} (code : StatusCode) (message : String)
    (instruction : Option (Instruction Scalar δ)) (accounts : List Account) : Failure :=
  ⟨code, message, .describe code message instruction accounts⟩

/-- The failure that a rejection is for the caller. -/
def ofRejection {δ : Type} (r : Rejection) (instruction : Option (Instruction Scalar δ))
    (accounts : List Account) : Failure :=
  describe r.code r.message instruction accounts

end Failure

end Remittance
