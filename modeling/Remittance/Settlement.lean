import Remittance.Report

/-!
# Settlement

An order that passed the screening is settled against its accounts: the transfer is projected and
reported, and nothing is stored.  An order for a later day is only set down, but the debit account
has to hold the amount already.

Balances are kept by id.  Where several accounts have one id the last of them counts, and every
entry with that id reports the one final balance.
-/

namespace Remittance

/-! ## Balances by id -/

/-- Balances by account id, each id once. -/
structure Balances where
  items : List (String × Int)

namespace Balances

/-- No balances. -/
def empty : Balances := ⟨[]⟩

/-- Puts a balance in the place of the one with the id, or at the end. -/
def putItem (id : String) (balance : Int) : List (String × Int) → List (String × Int)
  | [] => [(id, balance)]
  | item :: later =>
    if item.1 = id then (id, balance) :: later else item :: putItem id balance later

/-- Sets the balance of an id. -/
def put (b : Balances) (id : String) (balance : Int) : Balances :=
  ⟨putItem id balance b.items⟩

/-- The balance of an id, zero if there is none. -/
def get (b : Balances) (id : String) : Int :=
  ((b.items.find? (·.1 == id)).map (·.2)).getD 0

/-- Adds an amount to the balance of an id. -/
def add (b : Balances) (id : String) (amount : Int) : Balances :=
  b.put id (b.get id + amount)

/-- The balances of a list of accounts. -/
def ofAccounts (accounts : List Account) : Balances :=
  accounts.foldl (fun b a => b.put a.id a.balance) empty

/-- The balances after a transfer. -/
def transfer (b : Balances) (debit credit : String) (amount : Int) : Balances :=
  (b.add debit (-amount)).add credit amount

end Balances

/-! ## Timing -/

/-- Whether an order is carried out on the given day: it has no day, or one that is not after it. -/
def Instruction.isDue {α : Type} (order : Instruction α Day) (today : Day) : Bool :=
  match order.date with
  | none => true
  | some day => decide (day ≤ today)

/-! ## Settling -/

/-- The report of an order that is carried out or set down. -/
def Transaction.ofOrder (order : Order) (accounts : List Account) (today : Day) : Transaction :=
  let due := order.isDue today
  let before := Balances.ofAccounts accounts
  let after := if due then before.transfer order.debit order.credit order.amount else before
  { kind := order.kind.keyword
    amount := order.amount
    currency := order.currency
    debit := order.debit
    credit := order.credit
    executeBy := if due then none else order.date.map Day.iso
    status := if due then .successful else .pending
    code := (if due then StatusCode.transactionSuccessful else .transactionPending).code
    accounts := accounts.map fun a =>
      ⟨a.id, after.get a.id, a.balance, Text.upper a.currency⟩ }

/-- The debit and the credit account of an order.  The first account has to be in the currency of
the order, and accounts with both ids have to be there. -/
def Instruction.parties {α δ : Type} (order : Instruction α δ) (accounts : List Account) :
    Except StageError (Account × Account) :=
  match accounts with
  | [] => .error (.fault .noAccounts)
  | first :: _ =>
    if order.currency ≠ first.currency then
      .error (.rejected (.currencyMismatch first.currency order.currency))
    else
      match Account.lastWith? order.debit accounts, Account.lastWith? order.credit accounts with
      | none, _ => .error (.fault (.unknownAccount order.debit))
      | some _, none => .error (.fault (.unknownAccount order.credit))
      | some debit, some credit => .ok (debit, credit)

/-- Settles an order against its accounts, whose debit account has to hold the amount.  The note
about the settlement shows the amount, which has to be one that can be written. -/
def settle (order : Order) (accounts : List Account) (today : Day) :
    Except StageError Transaction :=
  match order.parties accounts with
  | .error e => .error e
  | .ok (debit, _) =>
    if debit.balance < order.amount then .error (.rejected (.insufficientFunds order.debit))
    else if Numeral.isWritable order.amount then .ok (.ofOrder order accounts today)
    else .error (.fault .tooManyDigits)

end Remittance
