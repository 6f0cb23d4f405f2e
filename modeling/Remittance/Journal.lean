import Remittance.Text.Quoted

/-!
# Journal

The work on an instruction leaves records in a journal.  A `Journaled` computation is a result or an
error together with the records written on the way to it; `bind` runs the second computation only
after a result, and its records follow those of the first.
-/

namespace Remittance

/-- The weight of a record. -/
inductive Level where
  | debug
  | info
  | warning
  | error
deriving DecidableEq

/-- The word for a level. -/
def Level.word : Level → String
  | .debug => "DEBUG"
  | .info => "INFO"
  | .warning => "WARNING"
  | .error => "ERROR"

/-- The part of the work that writes a record. -/
inductive Source where
  | grammar
  | accounts
  | screening
  | settlement
  | clearing
  | audit
deriving DecidableEq

/-- The name of a source in the journal. -/
def Source.name : Source → String
  | .grammar => "payinstruct.instruction.grammar"
  | .accounts => "payinstruct.engine.accounts"
  | .screening => "payinstruct.engine.validation"
  | .settlement => "payinstruct.engine.execution"
  | .clearing => "payinstruct.engine.processor"
  | .audit => "payinstruct.jobs.audit"

/-- A record of the journal. -/
structure Record where
  level : Level
  source : Source
  text : String
deriving DecidableEq

/-- A computation that may fail and that writes records. -/
structure Journaled (ε α : Type) where
  records : List Record
  outcome : Except ε α

namespace Journaled

/-- The computation that writes one record. -/
def write {ε : Type} (record : Record) : Journaled ε Unit :=
  ⟨[record], .ok ()⟩

/-- The computation that fails after writing the given records. -/
def refuse {ε α : Type} (records : List Record) (error : ε) : Journaled ε α :=
  ⟨records, .error error⟩

/-- Runs a computation on the result of another. -/
def andThen {ε α β : Type} (first : Journaled ε α) (next : α → Journaled ε β) : Journaled ε β :=
  match first.outcome with
  | .ok a => ⟨first.records ++ (next a).records, (next a).outcome⟩
  | .error e => ⟨first.records, .error e⟩

instance {ε : Type} : Monad (Journaled ε) where
  pure a := ⟨[], .ok a⟩
  bind := andThen

end Journaled

end Remittance
