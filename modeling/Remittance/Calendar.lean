import Remittance.Numeral.Digits

/-!
# Calendar days

A `Day` is a day of the Gregorian calendar in the years 1 to 9999.  `Day.iso` writes it as four, two
and two digits between dashes and `Day.read?` reads that form, in which the fields may also carry
signs.  Days are compared by their stamps: the eight digits of the written form read as one number.
-/

namespace Remittance

open Numeral

/-- A leap year is a multiple of 4, but of the multiples of 100 only those of 400. -/
def isLeapYear (year : Nat) : Bool :=
  year % 4 == 0 && (year % 100 != 0 || year % 400 == 0)

/-- The number of days of a month; no other number is a month. -/
def daysInMonth (year month : Nat) : Nat :=
  match month with
  | 2 => if isLeapYear year then 29 else 28
  | 4 | 6 | 9 | 11 => 30
  | 1 | 3 | 5 | 7 | 8 | 10 | 12 => 31
  | _ => 0

/-- A calendar day. -/
structure Day where
  year : Nat
  month : Nat
  day : Nat
  /-- The year is in range and the day exists in its month. -/
  exists_day : 1 ≤ year ∧ year ≤ 9999 ∧ 1 ≤ day ∧ day ≤ daysInMonth year month
deriving DecidableEq

namespace Day

/-- The day with the given year, month and day of the month, if there is one. -/
def of? (year month day : Nat) : Option Day :=
  if h : 1 ≤ year ∧ year ≤ 9999 ∧ 1 ≤ day ∧ day ≤ daysInMonth year month then
    some ⟨year, month, day, h⟩
  else none

/-- The digits of the written form, read as one number. -/
def stamp (d : Day) : Nat :=
  (d.year * 100 + d.month) * 100 + d.day

/-- Days are ordered as they follow each other. -/
instance : LE Day := ⟨fun a b => a.stamp ≤ b.stamp⟩

instance (a b : Day) : Decidable (a ≤ b) :=
  inferInstanceAs (Decidable (a.stamp ≤ b.stamp))

/-- The written form of a day. -/
def iso (d : Day) : String :=
  String.ofList (padded 4 d.year ++ '-' :: padded 2 d.month ++ '-' :: padded 2 d.day)

/-- Reads one field of the written form: an optional sign and digits. -/
def readField? (cs : List Char) : Option Nat :=
  match readInteger? cs with
  | some (.ofNat n) => some n
  | _ => none

/-- Reads a day written as ten characters with dashes at the fifth and the eighth. -/
def readChars? : List Char → Option Day
  | [y₁, y₂, y₃, y₄, '-', m₁, m₂, '-', d₁, d₂] => do
    let year ← readField? [y₁, y₂, y₃, y₄]
    let month ← readField? [m₁, m₂]
    let day ← readField? [d₁, d₂]
    of? year month day
  | _ => none

/-- Reads a written day. -/
def read? (s : String) : Option Day :=
  readChars? s.toList

end Day

end Remittance
