import Remittance.Text.Upper

/-!
# Lower-casing

`lower` maps every character of a text to its lower-case form.  A character that some other becomes
in upper case goes back to the first of these, except those of `lowerRuns`, which go elsewhere.
-/

namespace Remittance.Text

/-- The code points beyond ASCII that do not go back to the first of those that become them in upper
case, with their lower-case forms as targets. -/
def lowerRuns : List UpperRun :=
  [⟨0x1C4, 1, 1, 0x1C6⟩, ⟨0x1C5, 1, 1, 0x1C6⟩, ⟨0x1C7, 1, 1, 0x1C9⟩, ⟨0x1C8, 1, 1, 0x1C9⟩,
   ⟨0x1CA, 1, 1, 0x1CC⟩, ⟨0x1CB, 1, 1, 0x1CC⟩, ⟨0x1F1, 1, 1, 0x1F3⟩, ⟨0x1F2, 1, 1, 0x1F3⟩,
   ⟨0x399, 1, 1, 0x3B9⟩, ⟨0x39C, 1, 1, 0x3BC⟩, ⟨0x3A3, 1, 1, 0x3C3⟩, ⟨0x3F4, 1, 1, 0x3B8⟩,
   ⟨0x1E9E, 1, 1, 0xDF⟩, ⟨0x1F88, 8, 1, 0x1F80⟩, ⟨0x1F98, 8, 1, 0x1F90⟩, ⟨0x1FA8, 8, 1, 0x1FA0⟩,
   ⟨0x1FBC, 1, 1, 0x1FB3⟩, ⟨0x1FCC, 1, 1, 0x1FC3⟩, ⟨0x1FFC, 1, 1, 0x1FF3⟩, ⟨0x2126, 1, 1, 0x3C9⟩,
   ⟨0x212A, 1, 1, 0x6B⟩, ⟨0x212B, 1, 1, 0xE5⟩, ⟨0xA64A, 1, 1, 0xA64B⟩]

/-- Whether a code point is one of the upper-case forms of a run. -/
def UpperRun.reaches (run : UpperRun) (code : Nat) : Bool :=
  run.target ≤ code && code < run.target + run.size * run.stride &&
    (code - run.target) % run.stride == 0

/-- The lower-case form of a code point; that of `İ` is an `i` and a dot above it. -/
def lowerCode (code : Nat) : List Nat :=
  if code < 128 then
    if 65 ≤ code && code ≤ 90 then [code + 32] else [code]
  else if code = 0x130 then [0x69, 0x307]
  else
    match lowerRuns.find? (·.contains code) with
    | some run => [run.target + (code - run.first)]
    | none =>
      match upperRuns.find? (·.reaches code) with
      | some run => [run.first + (code - run.target)]
      | none => [code]

/-- The lower-case form of a text. -/
def lower (cs : List Char) : List Char :=
  cs.flatMap fun c => (lowerCode c.toNat).map Char.ofNat

end Remittance.Text
