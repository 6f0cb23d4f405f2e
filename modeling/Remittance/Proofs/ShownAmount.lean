import Remittance.Proofs.AmountWords
import Remittance.Proofs.ShortestText

/-!
# Shown amounts

A message that turns an amount down shows the number that was captured, and not the word that it was
captured from.  `Number.capture_shown` says that nothing is lost by that: what is shown is captured
as the same number, of the same kind.

Integers are shown in digits, and no captured integer has too many of them to be read exactly.  A
floating-point number is shown with a point or an exponent, so that it cannot be taken for a decimal
integer; but what its shortest digits stand for could still be an integer, and then capturing would
make one of it.  Rounding excludes this: an integer is never rounded to a number with a fraction
(`not_exists_intCast_of_rounds`).  What is left is the floating-point text, which is read as the
number that it was written for (`Binary64.read?_text`).
-/

namespace Remittance.Number

open Numeral

/-- Only a number with a fraction is rounded to one. -/
lemma not_exists_intCast_of_rounds {q : ℚ} {negative : Bool} {x : Magnitude}
    (hrounds : Binary64.Rounds q (.finite negative x))
    (hfraction : ¬∃ n : Int, signFactor negative * x.value = n) : ¬∃ n : Int, q = n := by
  rintro ⟨n, rfl⟩
  cases hrounds with
  | finite _ _ hnearest =>
    have habs : |(n : ℚ)| = (n.natAbs : Nat) := by rw [Nat.cast_natAbs, Int.cast_abs]
    rw [habs] at hnearest
    obtain ⟨m, hm⟩ := hnearest.exists_natCast
    refine hfraction ⟨withSign negative m, ?_⟩
    rw [hm]
    cases negative <;> simp [signFactor, withSign]

/-- A number with a fraction is captured from its own text. -/
lemma capture_text_of_fraction {negative : Bool} {x : Magnitude}
    (hfraction : ¬∃ n : Int, signFactor negative * x.value = n) :
    capture (Binary64.text (.finite negative x)) = .binary (.finite negative x) := by
  have hx : x.mantissa ≠ 0 := by
    intro hzero
    refine hfraction ⟨0, ?_⟩
    rw [x.value_eq, hzero]
    simp
  obtain ⟨q, _, hdenotes, hrounds⟩ := Binary64.exists_denotes_text hx negative
  have hcapture := hdenotes.capture_eq_ofFloatText (not_exists_intCast_of_rounds hrounds hfraction)
  rw [hcapture, ofFloatText, Binary64.read?_text]
  dsimp only
  rw [ofBinary, Binary64.toInt?_finite_eq_none_iff.mpr hfraction]

/-- A number in normal form is captured from its own text. -/
lemma IsNormal.capture_text {x : Number} (h : x.IsNormal) : capture x.text = x := by
  cases h with
  | whole hrange => exact capture_integer hrange
  | fraction hfraction => exact capture_text_of_fraction hfraction
  | @infinite negative => cases negative <;> rfl
  | undefined => rfl

/-- The text by which a message shows a captured amount is captured as that amount, and every
captured amount can be shown. -/
theorem capture_shown (word : String) :
    (Rejection.invalidAmount (.number (capture word))).message =
        "The amount " ++ (Scalar.number (capture word)).shown ++
          " is not a valid positive number." ∧
      capture (Scalar.number (capture word)).shown = capture word ∧ Converts word :=
  ⟨rfl, (isNormal_capture word).capture_text, converts word⟩

end Remittance.Number
