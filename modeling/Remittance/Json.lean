import Remittance.Amount

/-!
# JSON values

A JSON number written without a point and without an exponent is an integer of any size, and every
other number is a floating-point number; the two never mix.  An object keeps its members in the
order in which they were written, and a string with lone surrogates is told apart from all others.
-/

namespace Remittance

/-- A JSON value. -/
inductive Json where
  | null
  | bool (b : Bool)
  | integer (n : Int)
  | float (x : Numeral.Binary64)
  | string (s : String)
  /-- A string with lone surrogates, in whose place their stand-ins are. -/
  | brokenString (s : String)
  | array (items : List Json)
  | object (members : List (String × Json))

namespace Json

/-- The value of the last member with the given name. -/
def member? (name : String) (members : List (String × Json)) : Option Json :=
  (members.reverse.find? (·.1 == name)).map (·.2)

/-- Puts a member in the place of the one with its name, or at the end. -/
def putMember (member : String × Json) : List (String × Json) → List (String × Json)
  | [] => [member]
  | other :: later =>
    if other.1 = member.1 then member :: later else other :: putMember member later

/-- Members as they stand at the end of an object: a name that is written again gets another value
and keeps its place. -/
def settled (members : List (String × Json)) : List (String × Json) :=
  members.foldl (fun kept member => putMember member kept) []

mutual

/-- Whether all numbers in a value meet a condition. -/
def allNumbers (p : Number → Bool) : Json → Bool
  | .null => true
  | .bool _ => true
  | .integer n => p (.whole n)
  | .float x => p (.binary x)
  | .string _ => true
  | .brokenString _ => true
  | .array items => allNumbersOfItems p items
  | .object members => allNumbersOfMembers p members

/-- Whether all numbers in some items meet a condition. -/
def allNumbersOfItems (p : Number → Bool) : List Json → Bool
  | [] => true
  | item :: later => item.allNumbers p && allNumbersOfItems p later

/-- Whether all numbers in some members meet a condition. -/
def allNumbersOfMembers (p : Number → Bool) : List (String × Json) → Bool
  | [] => true
  | (_, value) :: later => value.allNumbers p && allNumbersOfMembers p later

end

/-- Whether a value holds no infinite and no undefined number, which no JSON text can hold. -/
def isFinite (value : Json) : Bool :=
  value.allNumbers Number.isFinite

end Json

end Remittance
