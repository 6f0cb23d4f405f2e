import Remittance.Text.Quoted

/-!
# Status codes

Every processed instruction ends with one of twelve status codes, two for transactions and ten for
rejections.  Five of them have a message that never varies.
-/

namespace Remittance

/-- The outcome of an instruction, as callers tell them apart. -/
inductive StatusCode where
  | invalidAmount
  | currencyMismatch
  | unsupportedCurrency
  | insufficientFunds
  | sameAccount
  | accountNotFound
  | invalidAccountId
  | invalidDate
  | missingKeyword
  | malformedInstruction
  | transactionSuccessful
  | transactionPending
deriving DecidableEq

namespace StatusCode

/-- All status codes. -/
def all : List StatusCode :=
  [.invalidAmount, .currencyMismatch, .unsupportedCurrency, .insufficientFunds, .sameAccount,
    .accountNotFound, .invalidAccountId, .invalidDate, .missingKeyword, .malformedInstruction,
    .transactionSuccessful, .transactionPending]

/-- The four characters of a status code. -/
def code : StatusCode → String
  | .invalidAmount => "AM01"
  | .currencyMismatch => "CU01"
  | .unsupportedCurrency => "CU02"
  | .insufficientFunds => "AC01"
  | .sameAccount => "AC02"
  | .accountNotFound => "AC03"
  | .invalidAccountId => "AC04"
  | .invalidDate => "DT01"
  | .missingKeyword => "SY01"
  | .malformedInstruction => "SY03"
  | .transactionSuccessful => "AP00"
  | .transactionPending => "AP02"

/-- The name of a status code in listings. -/
def name : StatusCode → String
  | .invalidAmount => "INVALID_AMOUNT"
  | .currencyMismatch => "CURRENCY_MISMATCH"
  | .unsupportedCurrency => "UNSUPPORTED_CURRENCY"
  | .insufficientFunds => "INSUFFICIENT_FUNDS"
  | .sameAccount => "SAME_ACCOUNT_ERROR"
  | .accountNotFound => "ACCOUNT_NOT_FOUND"
  | .invalidAccountId => "INVALID_ACCOUNT_ID"
  | .invalidDate => "INVALID_DATE_FORMAT"
  | .missingKeyword => "MISSING_REQUIRED_KEYWORD"
  | .malformedInstruction => "MALFORMED_INSTRUCTION"
  | .transactionSuccessful => "TRANSACTION_SUCCESSFUL"
  | .transactionPending => "TRANSACTION_PENDING"

/-- Whether the code says that the text could not be read at all, so that nothing is known about the
instruction. -/
def isSyntactic : StatusCode → Bool
  | .missingKeyword | .malformedInstruction => true
  | _ => false

/-- The message of a code whose message never varies. -/
def fixedMessage? : StatusCode → Option String
  | .currencyMismatch => some "Both accounts must have the same currency."
  | .sameAccount => some "Debit and credit accounts cannot be the same"
  | .malformedInstruction => some "The payment instruction is malformed."
  | .transactionSuccessful => some "Transaction executed successfully"
  | .transactionPending => some "Transaction scheduled for future execution"
  | _ => none

/-- The status code with the given four characters. -/
def ofCode? (text : String) : Option StatusCode :=
  all.find? (·.code == text)

/-- The message about a text that is no status code. -/
def unknownMessage (text : String) : String :=
  Text.quoted text ++ " is not a valid StatusCode"

end StatusCode

end Remittance
