/-!
# Accounts

An account is supplied with a request and never changed; what happened to it is reported by an
`Entry`, which holds the balance before and after.  A list may hold several accounts with one id.
The last of them is the one that an instruction uses.
-/

namespace Remittance

/-- An account as the caller supplies it. -/
structure Account where
  id : String
  balance : Int
  currency : String
deriving DecidableEq

/-- An account as it is reported back. -/
structure Entry where
  id : String
  balance : Int
  balanceBefore : Int
  currency : String
deriving DecidableEq

namespace Account

/-- The entry of an account that nothing happened to. -/
def unchanged (a : Account) : Entry :=
  ⟨a.id, a.balance, a.balance, a.currency⟩

/-- The last account of a list with the given id. -/
def lastWith? (id : String) (accounts : List Account) : Option Account :=
  accounts.reverse.find? (·.id == id)

end Account

/-- The currencies that instructions and accounts may be in. -/
def supportedCurrencies : List String :=
  ["NGN", "USD", "GBP", "GHS"]

/-- The characters of account ids that are neither ASCII letters nor digits. -/
def idSymbols : List Char :=
  ['-', '.', '@']

/-- Whether an account id may hold the character. -/
def isIdCharacter (c : Char) : Bool :=
  ('A' ≤ c && c ≤ 'Z') || ('a' ≤ c && c ≤ 'z') || ('0' ≤ c && c ≤ '9') || idSymbols.contains c

end Remittance
