import Remittance.Numeral.Arithmetic
import Remittance.Schema.Value
import Remittance.Settlement

/-!
# Settling without a screening

A caller may have an instruction settled that never was screened, so that any scalar stands where
its amount belongs.  `settleUnscreened` settles integers and truth values like every other order.
With a floating-point amount the balances are computed in that format, and the report, which shows
integers only, cannot be made if one of its numbers is none.  Other scalars cannot be compared with
a balance.
-/

namespace Remittance

open Numeral

/-- Why an amount cannot be set against a balance. -/
inductive AmountFault where
  /-- The amount is a text. -/
  | text
  /-- There is no amount. -/
  | absent
  /-- The amount is a floating-point number and the balance is beyond the range of these. -/
  | balanceOutOfRange
deriving DecidableEq

/-- The message of a fault. -/
def AmountFault.message : AmountFault → String
  | .text => "'<' not supported between instances of 'int' and 'str'"
  | .absent => "'<' not supported between instances of 'int' and 'NoneType'"
  | .balanceOutOfRange => "int too large to convert to float"

/-- Why an instruction that was not screened is not settled. -/
inductive UnscreenedError where
  | refused (e : StageError)
  | amount (f : AmountFault)
  /-- The report would have to show a number that is no integer. -/
  | violations (found : List Violation)
deriving DecidableEq

/-- A balance as a floating-point number. -/
def Account.binaryBalance (a : Account) : Except UnscreenedError Binary64 :=
  match Binary64.ofInteger? a.balance with
  | some x => .ok x
  | none => .error (.amount .balanceOutOfRange)

/-- The balances of the debit and the credit account after a transfer between them.  If both are one
account, the amount is taken from its balance and then added again. -/
def binaryTransfer (amount : Binary64) (debit credit : Account) :
    Except UnscreenedError (Binary64 × Binary64) := do
  let debited := (← debit.binaryBalance).add amount.neg
  if debit.id = credit.id then
    let restored := debited.add amount
    .ok (restored, restored)
  else
    let credited := (← credit.binaryBalance).add amount
    .ok (debited, credited)

/-- The entries of accounts where the ids of an order have the given final balances. -/
def binaryEntries (order : Instruction Scalar Day) (debited credited : Binary64)
    (accounts : List Account) : Checked (List Entry) :=
  let before := Balances.ofAccounts accounts
  accounts.mapM fun a =>
    let after : Json :=
      if a.id = order.credit then .float credited
      else if a.id = order.debit then .float debited
      else .integer (before.get a.id)
    (Checked.under (.field "balance") after.checkInteger).map fun balance =>
      ⟨a.id, balance, a.balance, Text.upper a.currency⟩

/-- The integer that a report shows for a floating-point amount. -/
def reportedAmount (amount : Binary64) : Except UnscreenedError Int :=
  (Checked.under (.field "amount") (Json.float amount).checkInteger).mapError .violations

/-- Settles an instruction with a floating-point amount. -/
def settleBinary (amount : Binary64) (order : Instruction Scalar Day) (accounts : List Account)
    (today : Day) : Except UnscreenedError Transaction := do
  let (debit, credit) ← (order.parties accounts).mapError .refused
  if amount.exceeds debit.balance then
    .error (.refused (.rejected (.insufficientFunds order.debit)))
  else if order.isDue today then
    let (debited, credited) ← binaryTransfer amount debit credit
    let entries ← (binaryEntries order debited credited accounts).mapError .violations
    let shown ← reportedAmount amount
    .ok { Transaction.ofOrder (order.mapAmount fun _ => shown) accounts today with
          accounts := entries }
  else
    let shown ← reportedAmount amount
    .ok (.ofOrder (order.mapAmount fun _ => shown) accounts today)

/-- Settles an instruction that was not screened. -/
def settleUnscreened (order : Instruction Scalar Day) (accounts : List Account) (today : Day) :
    Except UnscreenedError Transaction :=
  let settleWhole (n : Int) : Except UnscreenedError Transaction :=
    (settle (order.mapAmount fun _ => n) accounts today).mapError .refused
  let faulty (f : AmountFault) : Except UnscreenedError Transaction :=
    match order.parties accounts with
    | .error refusal => .error (.refused refusal)
    | .ok _ => .error (.amount f)
  match order.amount with
  | .number (.whole n) => settleWhole n
  | .number (.binary x) => settleBinary x order accounts today
  | .flag b => settleWhole (if b then 1 else 0)
  | .text _ => faulty .text
  | .absent => faulty .absent

end Remittance
