import Remittance.Rejection
import Remittance.Text.Upper

/-!
# Screening

Before money moves, the accounts that an instruction names are picked out of those supplied
(`resolve`), the instruction is judged by itself (`Instruction.screen`), and the picked accounts are
judged against each other (`screenAccounts`).  Each of the three stops at the first flaw.

The message about an amount shows it, so that the judgement of an amount has a third way to end: an
integer that is no amount may have too many digits to be written.
-/

namespace Remittance

/-! ## Picking the accounts -/

/-- The accounts whose id is the debit or the credit id, in the order in which they were supplied.
A missing debit account is reported before a missing credit account. -/
def resolve {α δ : Type} (accounts : List Account) (i : Instruction α δ) :
    Except Rejection (List Account) :=
  let involved := accounts.filter fun a => a.id == i.debit || a.id == i.credit
  if !involved.any (·.id == i.debit) then .error (.accountNotFound i.debit accounts.length)
  else if !involved.any (·.id == i.credit) then .error (.accountNotFound i.credit accounts.length)
  else .ok involved

/-! ## Judging single values -/

/-- An account id, if it holds only the characters of ids. -/
def screenId (id : String) : Except Rejection String :=
  if id.toList.all isIdCharacter then .ok id else .error (.invalidAccountId id)

/-- The amount that a scalar is. -/
def screenAmount (amount : Scalar) : Except StageError Int :=
  match amount.positive? with
  | some n => .ok n
  | none => tell (.error (.invalidAmount amount))

/-- The upper-case form of a currency, if it is supported. -/
def screenCurrency (currency : String) : Except Rejection String :=
  let code := Text.upper currency
  if supportedCurrencies.contains code then .ok code else .error (.unsupportedCurrency currency)

/-- The day that a text is. -/
def screenDate (text : String) : Except Rejection Day :=
  match Day.read? text with
  | some day => .ok day
  | none => .error (.invalidDate text)

/-- The day of an instruction, if it gives one; the empty text gives none. -/
def screenOptionalDate : Option String → Except Rejection (Option Day)
  | none => .ok none
  | some text => if text.isEmpty then .ok none else (screenDate text).map some

/-! ## Judging the whole -/

/-- Judges an instruction: the debit id, the credit id, that they differ, the amount, the currency
and the day, in this order. -/
def Instruction.screen (i : RawInstruction) : Except StageError Order := do
  let debit ← tell (screenId i.debit)
  let credit ← tell (screenId i.credit)
  if debit = credit then tell (.error .sameAccount)
  else
    let amount ← screenAmount i.amount
    let currency ← tell (screenCurrency i.currency)
    let date ← tell (screenOptionalDate i.date)
    .ok { kind := i.kind, amount, currency, debit, credit, date }

/-- The different texts of a list, in ascending order of their characters. -/
def distinct (texts : List String) : List String :=
  texts.eraseDups.mergeSort fun a b => decide (a ≤ b)

/-- Judges the involved accounts: every id, then every currency, then that there is only one. -/
def screenAccounts (accounts : List Account) : Except Rejection (List Account) := do
  let _ ← accounts.mapM fun a => screenId a.id
  let _ ← accounts.mapM fun a => screenCurrency a.currency
  let currencies := distinct (accounts.map (·.currency))
  if 1 < currencies.length then .error (.mixedCurrencies currencies) else .ok accounts

end Remittance
