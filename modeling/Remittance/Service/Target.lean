import Remittance.Service.Address
import Remittance.Text.Encoding

/-!
# Request targets

A web request is addressed to a target: a path and the parameters of a query.  `Target.read` takes
one from a written address.  An address with a scheme and a host is absolute: the scheme has to be
known and the host does not matter.  Every other address is relative to the service, so that its
place and the slashes at the start of its path do not matter, and a path without a place is brought
to its plain form only then.

Every percent sign with two hexadecimal digits is a byte of text in UTF-8.  Parameters are read in
this way once and paths twice.
-/

namespace Remittance

open Text

/-- What a web request is addressed to. -/
structure Target where
  path : String
  /-- The names and values in the query, in order. -/
  parameters : List (String × String)
deriving DecidableEq

/-- Why an address leads to no target. -/
inductive TargetError where
  /-- The address cannot be used. -/
  | address (e : AddressError)
  /-- An absolute address has an unknown scheme. -/
  | scheme (name : String)
  /-- The scheme of an absolute address is one of lasting connections, which get no answer. -/
  | lasting
deriving DecidableEq

/-- The message of an error. -/
def TargetError.message : TargetError → String
  | .address e => e.message
  | .scheme name => quoted name
  | .lasting => ""

/-! ## Percent signs -/

/-- The bytes of a text in which a percent sign and two hexadecimal digits stand for a byte. -/
def percentBytes : List Char → List UInt8
  | [] => []
  | '%' :: a :: b :: later =>
    match Numeral.digit? 16 a, Numeral.digit? 16 b with
    | some high, some low => UInt8.ofNat (high * 16 + low) :: percentBytes later
    | _, _ => String.utf8EncodeChar '%' ++ percentBytes (a :: b :: later)
  | c :: later => String.utf8EncodeChar c ++ percentBytes later

/-- The text that a text with percent signs stands for. -/
def percentDecoded (cs : List Char) : List Char :=
  (ofBytes (percentBytes cs)).toList

namespace Target

/-! ## Queries -/

/-- The name and the value of a parameter, in which a plus sign stands for a space. -/
def parameterOf (piece : List Char) : String × String :=
  let (name, value) := piece.span (· != '=')
  let text (cs : List Char) : String :=
    String.ofList (percentDecoded (cs.map fun c => if c = '+' then ' ' else c))
  (text name, text (value.drop 1))

/-- The parameters of a query. -/
def parametersOf (query : List Char) : List (String × String) :=
  ((query.splitOn '&').filter (!·.isEmpty)).map parameterOf

/-- The value of the last parameter with the given name. -/
def parameter? (t : Target) (name : String) : Option String :=
  (t.parameters.reverse.find? (·.1 == name)).map (·.2)

/-! ## Quoting -/

/-- The ASCII characters other than controls that are quoted in a path. -/
def quotedInPath : List Char :=
  [' ', '\x22', '#', '<', '>', '?', '\x60', '\x7b', '\x7d']

/-- The ASCII characters other than controls that are quoted in a query. -/
def quotedInQuery : List Char :=
  [' ', '\x22', '#', '<', '>']

/-- The length of a text in which the given characters and all that are not ASCII are quoted, each
of their bytes by a percent sign and two digits. -/
def quotedLength (special cs : List Char) : Nat :=
  cs.foldl (fun n c => n + if 128 ≤ c.toNat || special.contains c then 3 * c.utf8Size else 1) 0

/-! ## Addresses -/

/-- The schemes of single requests. -/
def schemes : List String :=
  ["http", "https"]

/-- The schemes of lasting connections. -/
def lastingSchemes : List String :=
  ["ws", "wss"]

/-- The target with the given path and query. -/
def ofParts (path : List Char) (query? : Option (List Char)) : Target :=
  ⟨String.ofList (percentDecoded (percentDecoded path)), parametersOf (query?.getD [])⟩

/-- The target of an absolute address. -/
def ofAbsolute (a : Address) : Except TargetError Target :=
  let scheme := String.ofList a.scheme
  if schemes.contains scheme then .ok (ofParts a.path a.query?)
  else if lastingSchemes.contains scheme then .error .lasting
  else .error (.scheme scheme)

/-- The target of a relative address. -/
def ofRelative (a : Address) : Except TargetError Target :=
  let path := '/' :: a.path.dropWhile (· == '/')
  if addressLimit < quotedLength quotedInPath path then .error (.address (.partTooLong .path))
  else if addressLimit < quotedLength quotedInQuery (a.query?.getD []) then
    .error (.address (.partTooLong .query))
  else .ok (ofParts (Address.plainPath path) a.query?)

/-- Reads an address. -/
def read (address : String) : Except TargetError Target :=
  match Address.read address with
  | .error e => .error (.address e)
  | .ok a => if a.isAbsolute then ofAbsolute a else ofRelative a

end Target

end Remittance
