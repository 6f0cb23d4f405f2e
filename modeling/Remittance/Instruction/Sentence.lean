import Remittance.Rejection
import Remittance.Text.Upper
import Remittance.Text.Words

/-!
# Sentences

An instruction is written in one of two sentence forms, told apart by the leading keyword:

    DEBIT  amount currency FROM ACCOUNT debit  FOR CREDIT TO ACCOUNT credit [ON day]
    CREDIT amount currency TO ACCOUNT   credit FOR DEBIT FROM ACCOUNT debit [ON day]

Keywords are compared by their upper-case forms.  The amount, the account ids and the day are taken
as they stand, and whether they are acceptable is for the screening to say.  `Sentence.parse` reads
a list of words and `Sentence.words` writes one.
-/

namespace Remittance

namespace Sentence

/-- A sentence has at least this many words. -/
def leastWords : Nat := 11

/-- A sentence has at most this many words. -/
def mostWords : Nat := 13

/-- The keyword in front of a day. -/
def dateKeyword : String := "ON"

/-- The phrase in front of the first account id. -/
def firstPhrase : Kind → List String
  | .debit => ["FROM", "ACCOUNT"]
  | .credit => ["TO", "ACCOUNT"]

/-- The phrase in front of the second account id. -/
def secondPhrase : Kind → List String
  | .debit => ["FOR", "CREDIT", "TO", "ACCOUNT"]
  | .credit => ["FOR", "DEBIT", "FROM", "ACCOUNT"]

/-- The phrase that a rejection names when the leading keyword is missing. -/
def leadingPhrase : String :=
  Kind.debit.keyword ++ " or " ++ Kind.credit.keyword

/-- The rejection of a sentence in which the phrase is missing. -/
def missing (phrase : List String) : Rejection :=
  .missingKeyword (" ".intercalate phrase)

/-- Whether words are the phrase, in any letter case. -/
def isPhrase (phrase words : List String) : Bool :=
  words.map Text.upper == phrase

/-- The instruction with the account ids in the order in which the form names them. -/
def assemble (kind : Kind) (amount currency first second : String) (date : Option String) :
    Instruction Number String :=
  { kind
    amount := Number.capture amount
    currency := Text.upper currency
    debit := match kind with | .debit => first | .credit => second
    credit := match kind with | .debit => second | .credit => first
    date }

/-- The day at the end of a sentence, given its second account id and the words after it.  The
keyword is looked for in the last word but one, which in a sentence of twelve words is the account
id itself. -/
def readDate (second : String) : List String → Except Rejection (Option String)
  | [] => .ok none
  | [date] =>
    if isPhrase [dateKeyword] [second] then .ok (some date) else .error (missing [dateKeyword])
  | keyword :: date :: _ =>
    if isPhrase [dateKeyword] [keyword] then .ok (some date) else .error (missing [dateKeyword])

/-- Reads the words of a sentence. -/
def parse (words : List String) : Except Rejection (Instruction Number String) :=
  if words.length < leastWords ∨ mostWords < words.length then .error (.malformed words.length)
  else
    match words with
    | leading :: amount :: currency :: f₁ :: f₂ :: first ::
        s₁ :: s₂ :: s₃ :: s₄ :: second :: rest =>
      match Kind.ofKeyword? (Text.upper leading) with
      | none => .error (.missingKeyword leadingPhrase)
      | some kind =>
        if !isPhrase (firstPhrase kind) [f₁, f₂] then .error (missing (firstPhrase kind))
        else if !isPhrase (secondPhrase kind) [s₁, s₂, s₃, s₄] then
          .error (missing (secondPhrase kind))
        else do
          let date ← readDate second rest
          .ok (assemble kind amount currency first second date)
    | _ => .error (.malformed words.length)

/-- Reads the text of a sentence. -/
def read (text : String) : Except Rejection (Instruction Number String) :=
  parse (Text.words text)

/-- The words of the sentence with the given amount and currency words, account ids and day. -/
def words (kind : Kind) (amount currency debit credit : String) (date : Option String) :
    List String :=
  let (first, second) := match kind with
    | .debit => (debit, credit)
    | .credit => (credit, debit)
  kind.keyword :: amount :: currency :: firstPhrase kind ++ first :: secondPhrase kind ++ second ::
    match date with
    | none => []
    | some day => [dateKeyword, day]

end Sentence

end Remittance
