import Remittance.Instruction.Sentence
import Remittance.Journal
import Remittance.Screening
import Remittance.Schema.Request
import Remittance.Settlement

/-!
# Clearing

`clear` takes a request through all its stages: the sentence is read, the accounts are picked, the
instruction and the accounts are screened, and the order is settled.  The first stage that turns the
instruction down ends the work.  `clearPayload` checks the payload of the request first.

Every stage that turns the instruction down leaves a warning in the journal, after a note of its own
where it has more to say than its message; a transaction leaves a note of the settlement and an
information.  A stage that meets a fault leaves nothing.
-/

namespace Remittance

/-- Why there is no transaction. -/
inductive Refusal where
  /-- The payload is not of the schema. -/
  | violations (found : List Violation)
  /-- The instruction was turned down. -/
  | failure (f : Failure)
  /-- A condition of the work was not met. -/
  | fault (f : Fault)
deriving DecidableEq

/-! ## Records -/

namespace Rejection

/-- What the stage notes beside its message. -/
def note? : Rejection → Option Record
  | .malformed words =>
    some ⟨.debug, .grammar,
      "Malformed instruction: " ++ Numeral.integer words ++ " tokens"⟩
  | .accountNotFound id supplied =>
    some ⟨.debug, .accounts,
      "Account " ++ id ++ " not in supplied list of " ++ Numeral.integer supplied⟩
  | .mixedCurrencies currencies =>
    some ⟨.debug, .screening,
      "Involved accounts disagree on currency: " ++ Text.quotedList currencies⟩
  | _ => none

/-- The warning about a rejection. -/
def warning (r : Rejection) : Record :=
  ⟨.warning, .clearing, "Instruction rejected (" ++ r.code.code ++ "): " ++ r.message⟩

end Rejection

namespace Transaction

/-- What the settlement notes about a transaction, which has an amount that can be written
(`settle`). -/
def note (t : Transaction) : Record :=
  ⟨.debug, .settlement,
    "Instruction " ++ t.status.word ++ ": " ++ Numeral.integer t.amount ++ " " ++ t.currency ++
      " " ++ t.debit ++ " -> " ++ t.credit⟩

/-- The information about a transaction. -/
def information (t : Transaction) : Record :=
  ⟨.info, .clearing,
    "Instruction " ++ t.status.word ++ " (" ++ t.code ++ "): " ++ t.kind ++ " " ++
      Numeral.integer t.amount ++ " " ++ t.currency ++ " " ++ t.debit ++ " -> " ++ t.credit⟩

end Transaction

/-! ## Stages -/

/-- A stage of the work on an instruction, of which this much is known, and of its accounts. -/
def stage {α δ : Type} (instruction : Option (Instruction Scalar δ)) (accounts : List Account)
    (result : Except StageError α) : Journaled Refusal α :=
  match result with
  | .ok a => pure a
  | .error (.rejected r) =>
    .refuse (r.note?.toList ++ [r.warning]) (.failure (.ofRejection r instruction accounts))
  | .error (.fault f) => .refuse [] (.fault f)

/-- The last stage, which knows the order. -/
def settlementStage (order : Order) (accounts : List Account) (today : Day) :
    Journaled Refusal Transaction := do
  let t ← stage (some (order.mapAmount Scalar.whole)) accounts (settle order accounts today)
  .write t.note
  pure t

/-- Clears a request. -/
def clear (request : Request) (today : Day) : Journaled Refusal Transaction := do
  let captured ← stage (none : Option RawInstruction) [] (tell (Sentence.read request.text))
  let instruction : RawInstruction := captured.mapAmount Scalar.number
  let involved ← stage (some instruction) [] (tell (resolve request.accounts instruction))
  let order ← stage (some instruction) involved instruction.screen
  let involved ← stage (some instruction) involved (tell (screenAccounts involved))
  let transaction ← settlementStage order involved today
  .write transaction.information
  pure transaction

/-- Clears the request that a payload holds. -/
def clearPayload (payload : Json) (today : Day) : Journaled Refusal Transaction :=
  match Request.check .direct payload with
  | .ok request => clear request today
  | .error found => .refuse [] (.violations found)

end Remittance
