import Remittance.Clearing

/-!
# Audit events

An audit event is what is kept of one processed instruction: the kind of outcome, the status code,
the text, the two accounts as far as they are known, and details that depend on the outcome.  An
event is built from a transaction or from a failure, never from both or neither.
-/

namespace Remittance.Audit

/-- The kind of outcome that an event is about. -/
inductive EventKind where
  | executed
  | scheduled
  | failed
deriving DecidableEq

/-- The word for a kind of event. -/
def EventKind.word : EventKind → String
  | .executed => "instruction_executed"
  | .scheduled => "instruction_scheduled"
  | .failed => "instruction_failed"

/-- What an event says beside the accounts. -/
inductive Details where
  | transaction (amount : Int) (currency : String) (executeBy : Option String)
  | failure (reason : String)
deriving DecidableEq

/-- What is kept of a processed instruction. -/
structure Event where
  kind : EventKind
  code : String
  text : String
  debit : Option String
  credit : Option String
  details : Details
deriving DecidableEq

namespace Event

/-- The event of a transaction.  Every code but that of a successful transaction counts as set down
for later. -/
def ofTransaction (text : String) (t : Transaction) : Event where
  kind := if t.code = StatusCode.transactionSuccessful.code then .executed else .scheduled
  code := t.code
  text
  debit := some t.debit
  credit := some t.credit
  details := .transaction t.amount t.currency t.executeBy

/-- The event of a failure. -/
def ofFailure (text : String) (f : Failure) : Event where
  kind := .failed
  code := f.code.code
  text
  debit := f.context.debit
  credit := f.context.credit
  details := .failure f.context.reason

/-- The event of whichever of the two is given, if exactly one is. -/
def build? (text : String) : Option Transaction → Option Failure → Option Event
  | some t, none => some (ofTransaction text t)
  | none, some f => some (ofFailure text f)
  | _, _ => none

/-- The text of an account in a record, where an unknown account has a word of its own. -/
def accountText : Option String → String
  | some id => id
  | none => "None"

/-- The record that an event was kept. -/
def kept (e : Event) : Record :=
  ⟨.info, .audit,
    "Audit " ++ e.kind.word ++ " [" ++ e.code ++ "] <id>: debit=" ++ accountText e.debit ++
      " credit=" ++ accountText e.credit⟩

/-- The record that an event could not be kept. -/
def lost (_ : Event) (reason : String) : Record :=
  ⟨.error, .audit, "Failed to record audit event <id>: " ++ reason⟩

end Event

end Remittance.Audit
