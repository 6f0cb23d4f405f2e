import Remittance.Numeral.Whole
import Remittance.Text.Quoted
import Remittance.Text.Upper

/-!
# Settings

The settings of the program come from an environment that gives some of them a text.  Switches are
on for four words and off for every other text, numbers are integers, and a setting without a text
has its standard value.  `rootLevel` gives the number of the level that a journal is kept from.
-/

namespace Remittance

open Numeral

/-- The settings of the program. -/
structure Settings where
  logLevel : String
  auditEnabled : Bool
  auditMaxEvents : Int
  host : String
  portNumber : Int
  reload : Bool
deriving DecidableEq

/-- Why settings cannot be loaded. -/
inductive SettingsError where
  /-- An environment holds no text with a zero character. -/
  | zeroCharacter
  /-- A text that has to be an integer is none. -/
  | notInteger (text : String)
  /-- An integer has this many digits, more than are read. -/
  | tooManyDigits (count : Nat)
deriving DecidableEq

namespace SettingsError

/-- Messages quote a text only up to this many characters, the quotes included. -/
def quoteLimit : Nat := 200

/-- The message of an error. -/
def message : SettingsError → String
  | .zeroCharacter => "embedded null byte"
  | .notInteger text =>
    "invalid literal for int() with base 10: " ++
      String.ofList ((Text.quoted text).toList.take quoteLimit)
  | .tooManyDigits count => digitLimitMessage (some count)

end SettingsError

namespace Settings

/-- The words for a switch that is on. -/
def onWords : List String :=
  ["1", "true", "yes", "on"]

/-- Whether a text turns a switch on. -/
def isOn (text : String) : Bool :=
  onWords.contains (String.ofList ((Text.trim text).toList.map Text.lowerAscii))

/-- Reads the integer of a setting. -/
def readInteger (text : String) : Except SettingsError Int :=
  match readWhole text with
  | .ok n => .ok n
  | .error .unreadable => .error (.notInteger text)
  | .error (.tooLong count) => .error (.tooManyDigits count)

/-- The names of the settings. -/
def names : List String :=
  ["LOG_LEVEL", "AUDIT_ENABLED", "AUDIT_MAX_EVENTS", "HOST", "PORT", "RELOAD"]

/-- Whether the environment gives a setting a text with a zero character. -/
def hasZeroCharacter (env : String → Option String) : Bool :=
  names.any fun name => (env name).any fun text => text.toList.contains '\x00'

/-- Loads the settings, where `env` gives the text of a setting.  Of two faulty integers that of the
audit trail is reported. -/
def load (env : String → Option String) : Except SettingsError Settings := do
  if hasZeroCharacter env then throw .zeroCharacter
  let auditMaxEvents ← readInteger ((env "AUDIT_MAX_EVENTS").getD "1000")
  let portNumber ← readInteger ((env "PORT").getD "8000")
  .ok {
    logLevel := (env "LOG_LEVEL").getD "INFO"
    auditEnabled := isOn ((env "AUDIT_ENABLED").getD "true")
    auditMaxEvents
    host := (env "HOST").getD "0.0.0.0"
    portNumber
    reload := isOn ((env "RELOAD").getD "false") }

end Settings

/-! ## The level of the journal -/

/-- How the records of the journal are printed. -/
def recordFormat : String :=
  "%(asctime)s | %(levelname)s | %(name)s | %(message)s"

/-- The level that a journal is kept from if its name is not known. -/
def standardLevel : Nat := 20

/-- The names of levels with their numbers. -/
def levelNumbers : List (String × Nat) :=
  [("CRITICAL", 50), ("FATAL", 50), ("ERROR", 40), ("WARNING", 30), ("WARN", 30), ("INFO", 20),
    ("DEBUG", 10), ("NOTSET", 0)]

/-- What else than a level a name may stand for. -/
inductive LevelError where
  /-- The format of records that is used without any settings. -/
  | format
  /-- The styles in which such a format can be written. -/
  | styles
deriving DecidableEq

/-- The message of an error. -/
def LevelError.message : LevelError → String
  | .format => "Unknown level: '%(levelname)s:%(name)s:%(message)s'"
  | .styles =>
    "Level not an integer or a valid string: " ++
      "\x7b'%': (<class 'logging.PercentStyle'>, '%(levelname)s:%(name)s:%(message)s'), " ++
      "'\x7b': (<class 'logging.StrFormatStyle'>, " ++
      "'\x7blevelname\x7d:\x7bname\x7d:\x7bmessage\x7d'), " ++
      "'$': (<class 'logging.StringTemplateStyle'>, " ++
      "'$\x7blevelname\x7d:$\x7bname\x7d:$\x7bmessage\x7d')\x7d"

/-- The names that stand for something else than a level. -/
def otherNames : List (String × LevelError) :=
  [("BASIC_FORMAT", .format), ("_STYLES", .styles)]

/-- The number of the level with the given name in any letter case, unless the name stands for
something else. -/
def rootLevel (name : String) : Except LevelError Nat :=
  let upper := Text.upper name
  match otherNames.find? (·.1 == upper) with
  | some (_, e) => .error e
  | none => .ok (((levelNumbers.find? (·.1 == upper)).map (·.2)).getD standardLevel)

end Remittance
