import Remittance.Numeral.Whole
import Remittance.Service.Host
import Remittance.Text.Quoted

/-!
# Written addresses

A written address may have a scheme, a place, a path, a query and a fragment; the place is a host
with a user in front of it and a port number after it.  `Address.read` takes an address apart and
says what is wrong with it.  Segments of a path that are `.` are dropped, and those that are `..`
take the segment before them along, unless the path is all that there is before the query.
-/

namespace Remittance

open Text

/-- The parts of a written address. -/
structure Address where
  /-- In lower case. -/
  scheme : List Char
  user : List Char
  host : List Char
  portNumber : List Char
  path : List Char
  query? : Option (List Char)
deriving DecidableEq

/-- Addresses, and the parts of relative addresses, are read up to this length. -/
def addressLimit : Nat := 65536

/-- The parts of an address that may be too long even though the address is not. -/
inductive AddressPart where
  | path
  | query
deriving DecidableEq

/-- The name of a part. -/
def AddressPart.name : AddressPart → String
  | .path => "path"
  | .query => "query"

/-- Why an address cannot be used. -/
inductive AddressError where
  /-- The address has more than `addressLimit` characters. -/
  | tooLong
  /-- A part has more than `addressLimit` characters once it is quoted. -/
  | partTooLong (part : AddressPart)
  /-- There is a control character at this position. -/
  | control (c : Char) (position : Nat)
  | host (fault : HostFault) (name : String)
  /-- The port number is no integer. -/
  | portNumber (text : String)
  /-- A path without a scheme and a place starts with two slashes. -/
  | doubleSlash
  /-- A path without a scheme and a place starts with a colon. -/
  | colon
deriving DecidableEq

/-- The message of an error. -/
def AddressError.message : AddressError → String
  | .tooLong => "URL too long"
  | .partTooLong part => "URL component " ++ quoted part.name ++ " too long"
  | .control c position =>
    "Invalid non-printable ASCII character in URL, " ++ quoted (String.singleton c) ++
      " at position " ++ String.ofList (Numeral.natural position) ++ "."
  | .host fault name => "Invalid " ++ fault.word ++ ": " ++ quoted name
  | .portNumber text => "Invalid port: " ++ quoted text
  | .doubleSlash => "Relative URLs cannot have a path starting with '//'"
  | .colon => "Relative URLs cannot have a path starting with ':'"

namespace Address

/-! ## Schemes and places -/

/-- Whether the character may stand in a scheme. -/
def isSchemeCharacter (c : Char) : Bool :=
  c.isAlphanum || c == '+' || c == '.' || c == '-'

/-- The scheme that an address starts with, and the address after its colon. -/
def takeScheme (address : List Char) : List Char × List Char :=
  match address.span isSchemeCharacter with
  | (scheme, ':' :: rest) =>
    if scheme.isEmpty || (scheme.head?.any Char.isAlpha) then (scheme, rest) else ([], address)
  | _ => ([], address)

/-- The place that an address without a scheme starts with, and the path after it. -/
def takePlace : List Char → List Char × List Char
  | '/' :: '/' :: rest => rest.span (· != '/')
  | path => ([], path)

/-- The texts before and after the last occurrence of a character; without one, all is after it. -/
def splitAtLast (mark : Char) (cs : List Char) : List Char × List Char :=
  let (after, before) := cs.reverse.span (· != mark)
  ((before.drop 1).reverse, after.reverse)

/-- The host that a place without a user starts with, and the rest of the place.  A host that starts
with a bracket goes as far as the last bracket that closes one. -/
def takeHost (place : List Char) : List Char × List Char :=
  if place.head? = some '[' ∧ place.contains ']' then
    let (before, after) := splitAtLast ']' place
    (before ++ [']'], after)
  else place.span (· != ':')

/-! ## Paths -/

/-- The segments of a path without `.` and `..`.  `kept` holds the segments before them, the last
first. -/
def plainSegments : (kept segments : List (List Char)) → List (List Char)
  | kept, [] => kept.reverse
  | kept, segment :: later =>
    if segment = ['.'] then plainSegments kept later
    else if segment = ['.', '.'] then
      plainSegments (if kept = [[]] then kept else kept.drop 1) later
    else plainSegments (segment :: kept) later

/-- The path without the segments `.` and `..`. -/
def plainPath (path : List Char) : List Char :=
  ['/'].intercalate (plainSegments [] (path.splitOn '/'))

/-! ## Reading -/

/-- Whether the character is an ASCII control character. -/
def isControl (c : Char) : Bool :=
  c.toNat < 0x20 || c == '\x7f'

/-- The parts of an address, as they are written. -/
def ofText (cs : List Char) : Address :=
  let (before, query) := (cs.takeWhile (· != '#')).span (· != '?')
  let (scheme, rest) := takeScheme before
  let (place, path) := takePlace rest
  let (user, place) := splitAtLast '@' place
  let (host, portNumber) := takeHost place
  { scheme := scheme.map Char.toLower
    user
    host
    portNumber := if portNumber.head? = some ':' then portNumber.drop 1 else portNumber
    path
    query? := if query.isEmpty then none else some (query.drop 1) }

/-- Whether an address has a place. -/
def hasPlace (a : Address) : Bool :=
  !a.user.isEmpty || !a.host.isEmpty || !a.portNumber.isEmpty

/-- Whether an address says by itself whom it is for. -/
def isAbsolute (a : Address) : Bool :=
  !a.scheme.isEmpty && !a.host.isEmpty

/-- Whether the text is one that a port number may be written as. -/
def isPortNumber (text : List Char) : Bool :=
  text.isEmpty || (Numeral.readWhole (String.ofList text)).toOption.isSome

/-- The address with its path in its plain form, unless something is wrong with its parts. -/
def check (a : Address) : Except AddressError Address :=
  match Host.fault? a.host with
  | some fault => .error (.host fault (String.ofList a.host))
  | none =>
    if !isPortNumber a.portNumber then .error (.portNumber (String.ofList a.portNumber))
    else if !a.scheme.isEmpty || a.hasPlace then .ok { a with path := plainPath a.path }
    else if a.path.take 2 = ['/', '/'] then .error .doubleSlash
    else if a.path.take 1 = [':'] then .error .colon
    else .ok a

/-- Reads an address. -/
def read (address : String) : Except AddressError Address :=
  let cs := address.toList
  if addressLimit < cs.length then .error .tooLong
  else
    match cs.dropWhile (!isControl ·) with
    | c :: rest => .error (.control c (cs.length - (rest.length + 1)))
    | [] => (ofText cs).check

end Address

end Remittance
