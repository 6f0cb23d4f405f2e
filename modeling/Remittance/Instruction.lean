import Remittance.Amount
import Remittance.Calendar
import Remittance.Text.Quoted

/-!
# Payment instructions

An instruction moves an amount from a debit account to a credit account, either at once or on a day.
The same record serves before and after screening: `RawInstruction` is what was written, with any
scalar for the amount and any text for the day, and `Order` is an instruction that passed, with an
integer and a calendar day.
-/

namespace Remittance

/-- The side of the transfer that an instruction is written from. -/
inductive Kind where
  | debit
  | credit
deriving DecidableEq

namespace Kind

/-- The leading keyword of an instruction. -/
def keyword : Kind → String
  | .debit => "DEBIT"
  | .credit => "CREDIT"

/-- The kind with the given leading keyword. -/
def ofKeyword? (word : String) : Option Kind :=
  if word = Kind.debit.keyword then some .debit
  else if word = Kind.credit.keyword then some .credit
  else none

/-- The message about a text that is no leading keyword. -/
def unknownMessage (text : String) : String :=
  Text.quoted text ++ " is not a valid TransactionType"

end Kind

/-- A payment instruction with amounts from `α` and days from `δ`. -/
structure Instruction (α δ : Type) where
  kind : Kind
  amount : α
  currency : String
  debit : String
  credit : String
  date : Option δ
deriving DecidableEq

/-- An instruction as written. -/
abbrev RawInstruction := Instruction Scalar String

/-- An instruction that passed the screening. -/
abbrev Order := Instruction Int Day

/-- The instruction with its amount replaced by a function of it. -/
def Instruction.mapAmount {α β δ : Type} (f : α → β) (i : Instruction α δ) : Instruction β δ :=
  { i with amount := f i.amount }

end Remittance
