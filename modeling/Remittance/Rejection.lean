import Remittance.Account
import Remittance.Instruction
import Remittance.StatusCode

/-!
# Rejections

A `Rejection` is one cause for which an instruction is turned down, with the data that its message
shows.  Each has a status code and a message; the two causes under `CU01` differ in their message.

A stage of the work that turns an instruction down has to write the message for it (`tell`).  Where
the message shows an integer with too many digits to be written, the stage ends with a fault
instead.
-/

namespace Remittance

/-- Why an instruction is turned down. -/
inductive Rejection where
  /-- The text has this number of words, which no sentence has. -/
  | malformed (words : Nat)
  /-- A keyword phrase is missing or not in its place. -/
  | missingKeyword (phrase : String)
  /-- No account with the id is among the accounts supplied, of which there are this many. -/
  | accountNotFound (id : String) (supplied : Nat)
  /-- The account id holds a character that ids may not hold. -/
  | invalidAccountId (id : String)
  /-- The debit and the credit account are one. -/
  | sameAccount
  /-- The amount is no positive integer. -/
  | invalidAmount (amount : Scalar)
  /-- The currency is not supported. -/
  | unsupportedCurrency (currency : String)
  /-- The text is no calendar day. -/
  | invalidDate (text : String)
  /-- The involved accounts are in these different currencies. -/
  | mixedCurrencies (currencies : List String)
  /-- The accounts are in one currency and the instruction in another. -/
  | currencyMismatch (account instruction : String)
  /-- The debit account holds less than the amount. -/
  | insufficientFunds (id : String)
deriving DecidableEq

namespace Rejection

/-- The status code of a rejection. -/
def code : Rejection → StatusCode
  | .malformed _ => .malformedInstruction
  | .missingKeyword _ => .missingKeyword
  | .accountNotFound _ _ => .accountNotFound
  | .invalidAccountId _ => .invalidAccountId
  | .sameAccount => .sameAccount
  | .invalidAmount _ => .invalidAmount
  | .unsupportedCurrency _ => .unsupportedCurrency
  | .invalidDate _ => .invalidDate
  | .mixedCurrencies _ => .currencyMismatch
  | .currencyMismatch _ _ => .currencyMismatch
  | .insufficientFunds _ => .insufficientFunds

/-- The fixed message of a status code; the empty text for a code that has none. -/
def fixedMessage (code : StatusCode) : String :=
  code.fixedMessage?.getD ""

/-- The message of a rejection, as far as it can be written. -/
def message : Rejection → String
  | .malformed _ => fixedMessage .malformedInstruction
  | .missingKeyword phrase =>
    "The required keyword " ++ phrase ++ " is missing from the instruction."
  | .accountNotFound id _ =>
    "Account ID: " ++ id ++ " specified in instruction is not in the provided accounts list"
  | .invalidAccountId id => "Account ID " ++ id ++ " contains invalid characters."
  | .sameAccount => fixedMessage .sameAccount
  | .invalidAmount amount =>
    "The amount " ++ amount.shown ++ " is not a valid positive number."
  | .unsupportedCurrency currency =>
    "The currency " ++ currency ++ " is not supported. Only " ++
      ", ".intercalate supportedCurrencies ++ " are supported."
  | .invalidDate text => "The date " ++ text ++ " is not in a valid YYYY-MM-DD format."
  | .mixedCurrencies _ => fixedMessage .currencyMismatch
  | .currencyMismatch account instruction =>
    "Account currency " ++ account ++ " does not match instruction currency " ++ instruction ++ "."
  | .insufficientFunds id => "Insufficient funds in debit account - " ++ id ++ "."

/-- Whether the message of a rejection can be written. -/
def isTellable : Rejection → Bool
  | .invalidAmount amount => amount.isWritable
  | _ => true

end Rejection

/-! ## Stages that end without a result -/

/-- A condition of the work that is not met. -/
inductive Fault where
  /-- There are no accounts. -/
  | noAccounts
  /-- No account has the id. -/
  | unknownAccount (id : String)
  /-- An integer that a text has to show has more digits than are written. -/
  | tooManyDigits
deriving DecidableEq

/-- The message of a fault. -/
def Fault.message : Fault → String
  | .noAccounts => "list index out of range"
  | .unknownAccount id => Text.quoted id
  | .tooManyDigits => Numeral.digitLimitMessage none

/-- Why a stage of the work ends without a result. -/
inductive StageError where
  | rejected (r : Rejection)
  | fault (f : Fault)
deriving DecidableEq

/-- How a stage ends that turns an instruction down. -/
def Rejection.told (r : Rejection) : StageError :=
  if r.isTellable then .rejected r else .fault .tooManyDigits

/-- The end of a stage that comes to a judgement. -/
def tell {α : Type} (judgement : Except Rejection α) : Except StageError α :=
  judgement.mapError Rejection.told

end Remittance
