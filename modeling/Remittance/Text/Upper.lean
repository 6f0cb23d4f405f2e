import Remittance.Text.UpperTable

/-!
# Full upper-casing

`upper` maps every character of a text to its full upper-case form, which may be longer than the
text: `ß` becomes `SS` and `ŉ` becomes an apostrophe and `N`.  ASCII is mapped by its own rule, all
other characters by the tables of `Text/UpperTable.lean`.
-/

namespace Remittance.Text

/-- Whether a code point belongs to the run. -/
def UpperRun.contains (run : UpperRun) (code : Nat) : Bool :=
  run.first ≤ code && code < run.first + run.size * run.stride &&
    (code - run.first) % run.stride == 0

/-- The full upper-case form of a code point. -/
def upperCode (code : Nat) : List Nat :=
  if code < 128 then
    if 97 ≤ code && code ≤ 122 then [code - 32] else [code]
  else
    match upperRuns.find? (·.contains code) with
    | some run => [run.target + (code - run.first)]
    | none =>
      match upperExpansions.find? (·.1 == code) with
      | some (_, form) => form
      | none => [code]

/-- The full upper-case form of a character. -/
def upperChar (c : Char) : List Char :=
  (upperCode c.toNat).map Char.ofNat

/-- The full upper-case form of a text. -/
def upper (s : String) : String :=
  String.ofList (s.toList.flatMap upperChar)

/-- The lower-case form of an ASCII letter; every other character stays. -/
def lowerAscii (c : Char) : Char :=
  if 'A' ≤ c ∧ c ≤ 'Z' then Char.ofNat (c.toNat + 32) else c

end Remittance.Text
