import Remittance.Json.Literal

/-!
# Reading JSON

`Json.read` reads a text that is one JSON value with white space around it.  A text that is none is
refused at an offset, the number of characters before the place where the reader gave up.  The words
`NaN`, `Infinity` and `-Infinity` are read as the floating-point values that they name.  Arrays and
objects are read only up to `depthLimit` of them inside each other.
-/

namespace Remittance.Json

open Text

/-- So many arrays and objects may be nested. -/
def depthLimit : Nat := 969

/-! ## Values -/

mutual

/-- Reads a value.  `fuel` bounds the parts that are still to be read, and `depth` the arrays and
objects that may still be opened inside each other. -/
def takeValue (standIns : StandIns) :
    (fuel depth : Nat) → List Char → Except ReadError (Json × List Char)
  | 0, _, cs => .error (.unexpected cs)
  | fuel + 1, depth, cs =>
    match cs with
    | '\x22' :: rest => do
      let (s, rest) ← takeString standIns cs (rest.length + 1) [] rest
      .ok (ofString standIns s, rest)
    | '{' :: rest =>
      if depth = 0 then .error .tooDeep
      else
        match skipBlank rest with
        | '}' :: rest => .ok (.object [], rest)
        | rest => do
          let (members, rest) ← takeMembers standIns fuel (depth - 1) rest
          .ok (.object (settled members), rest)
    | '[' :: rest =>
      if depth = 0 then .error .tooDeep
      else
        match skipBlank rest with
        | ']' :: rest => .ok (.array [], rest)
        | rest => do
          let (items, rest) ← takeItems standIns fuel (depth - 1) rest
          .ok (.array items, rest)
    | _ =>
      match takeWord? cs with
      | some found => .ok found
      | none => takeNumber cs

/-- Reads the members of an object up to its closing brace. -/
def takeMembers (standIns : StandIns) :
    (fuel depth : Nat) → List Char → Except ReadError (List (String × Json) × List Char)
  | 0, _, cs => .error (.unexpected cs)
  | fuel + 1, depth, cs =>
    match cs with
    | '\x22' :: rest => do
      let (name, rest) ← takeString standIns cs (rest.length + 1) [] rest
      match skipBlank rest with
      | ':' :: rest =>
        let (value, rest) ← takeValue standIns fuel depth (skipBlank rest)
        match skipBlank rest with
        | '}' :: rest => .ok ([(name, value)], rest)
        | ',' :: rest =>
          let (members, rest) ← takeMembers standIns fuel depth (skipBlank rest)
          .ok ((name, value) :: members, rest)
        | rest => .error (.unexpected rest)
      | rest => .error (.unexpected rest)
    | _ => .error (.unexpected cs)

/-- Reads the items of an array up to its closing bracket. -/
def takeItems (standIns : StandIns) :
    (fuel depth : Nat) → List Char → Except ReadError (List Json × List Char)
  | 0, _, cs => .error (.unexpected cs)
  | fuel + 1, depth, cs => do
    let (value, rest) ← takeValue standIns fuel depth cs
    match skipBlank rest with
    | ']' :: rest => .ok ([value], rest)
    | ',' :: rest =>
      let (items, rest) ← takeItems standIns fuel depth (skipBlank rest)
      .ok (value :: items, rest)
    | rest => .error (.unexpected rest)

end

/-- Why a text is not one JSON value. -/
inductive Fault where
  /-- The reader gave up after this many characters. -/
  | malformed (offset : Nat)
  /-- An integer has more digits than are read. -/
  | integerTooLong
  /-- Arrays and objects are nested more deeply than is read. -/
  | tooDeep
deriving DecidableEq

/-- The fault of a text at which a reader gave up. -/
def ReadError.fault (text : List Char) : ReadError → Fault
  | .unexpected rest => .malformed (text.length - rest.length)
  | .integerTooLong => .integerTooLong
  | .tooDeep => .tooDeep

/-- Reads a text that is one value with white space around it.  The text may hold the given
stand-ins of lone surrogates, and those of its escapes are added. -/
def readWith (standIns : StandIns) (s : String) : Except Fault Json :=
  let text := s.toList
  match takeValue standIns (2 * (text.length + 1)) depthLimit (skipBlank text) with
  | .error e => .error (e.fault text)
  | .ok (value, rest) =>
    match skipBlank rest with
    | [] => .ok value
    | rest => .error (.malformed (text.length - rest.length))

/-- Reads a text without stand-ins for lone surrogates. -/
def read (s : String) : Except Fault Json :=
  readWith .none s

end Remittance.Json
