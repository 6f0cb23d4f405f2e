import Remittance.Numeral.Digits
import Remittance.Text.Quoted

/-!
# Stand-ins for lone surrogates

A text that comes in code units or in escapes may hold a lone surrogate, half of a surrogate pair
without the other half, which is no character.  While such a text is worked on, another character
stands in for each lone surrogate.  `StandIns.apartFrom` takes characters for this that the text
does not hold itself, so that nothing is mistaken for something else.

A text in which stand-ins are left cannot be sent.  `StandIns.firstRun?` finds the first of them,
and `LoneSurrogates.message` is what is said about it.
-/

namespace Remittance.Text

/-- Whether a code unit is the first half of a surrogate pair. -/
def isHighSurrogate (code : Nat) : Bool :=
  0xD800 ≤ code && code < 0xDC00

/-- Whether a code unit is the second half of a surrogate pair. -/
def isLowSurrogate (code : Nat) : Bool :=
  0xDC00 ≤ code && code < 0xE000

/-- There are so many surrogates. -/
def surrogateCount : Nat := 0x800

/-- The characters that stand in for lone surrogates.  They follow each other like the surrogates
do, from the given code point on; without it, every lone surrogate is replaced by `U+FFFD`. -/
structure StandIns where
  first? : Option Nat
deriving DecidableEq

namespace StandIns

/-- No stand-ins. -/
def none : StandIns := ⟨.none⟩

/-- The character in the place of a lone surrogate. -/
def char (s : StandIns) (code : Nat) : Char :=
  match s.first? with
  | some first => Char.ofNat (first + (code - 0xD800))
  | .none => '\ufffd'

/-- The lone surrogate that a character stands in for. -/
def code? (s : StandIns) (c : Char) : Option Nat :=
  s.first?.bind fun first =>
    if first ≤ c.toNat ∧ c.toNat < first + surrogateCount then some (c.toNat - first + 0xD800)
    else .none

/-- Whether a character stands in for a lone surrogate. -/
def contains (s : StandIns) (c : Char) : Bool :=
  (s.code? c).isSome

/-- The code points from which stand-ins may follow each other: all of the last two planes, which
hold no other characters than those for private use, in parts of the right size. -/
def starts : List Nat :=
  (List.range 64).map fun part => 0xF0000 + part * surrogateCount

/-- The first stand-ins that a text does not hold. -/
def apartFrom (cs : List Char) : StandIns :=
  ⟨starts.find? fun first => !cs.any (StandIns.mk (some first)).contains⟩

end StandIns

/-- Lone surrogates that follow each other in a text. -/
structure LoneSurrogates where
  /-- The first of them. -/
  code : Nat
  /-- The number of characters before it. -/
  position : Nat
  /-- How many they are. -/
  count : Nat
deriving DecidableEq

/-- The first lone surrogates of a text. -/
def StandIns.firstRun? (s : StandIns) (cs : List Char) : Option LoneSurrogates :=
  let (before, rest) := cs.span (!s.contains ·)
  (rest.head?.bind s.code?).map fun code =>
    ⟨code, before.length, (rest.takeWhile s.contains).length⟩

/-- Why a text with lone surrogates cannot be sent. -/
def LoneSurrogates.message (l : LoneSurrogates) : String :=
  let place (n : Nat) : String := String.ofList (Numeral.natural n)
  let found :=
    if l.count = 1 then
      "character '\\u" ++ String.ofList (hexDigits 4 l.code) ++ "' in position " ++
        place l.position
    else
      "characters in position " ++ place l.position ++ "-" ++ place (l.position + l.count - 1)
  "'utf-8' codec can't encode " ++ found ++ ": surrogates not allowed"

end Remittance.Text
