import Remittance.Proofs.FailureReport
import Remittance.Proofs.FloatText
import Remittance.Proofs.NumberBases

/-!
# Amount words

A word reaches its amount by one of four ways: as a decimal integer that can be read exactly, as one
that is too long for that, as a marked integer, or as a floating-point number.  Whatever the way,
the number is in normal form (`Number.IsNormal`): no integer is left to be a floating-point number,
and no integer beyond the range of these is left to be an integer.

`Number.IsAmountText` is the syntax of the words that stand for a number or an infinity.
`Number.capture_normalizes` says that all other words, and no more, are captured as the undefined
number, and what that leaves for screening and for reports.
-/

namespace Remittance.Number

open Numeral

/-! ## Normal form -/

/-- The normal form of numbers: an integer in the range of the floating-point numbers, a finite
floating-point number that equals no integer, an infinity or the undefined number. -/
inductive IsNormal : Number → Prop
  | whole {n : Int} (hrange : n.natAbs ≤ Magnitude.largest) : IsNormal (.whole n)
  | fraction {negative : Bool} {x : Magnitude}
    (hfraction : ¬∃ n : Int, signFactor negative * x.value = n) :
    IsNormal (.binary (.finite negative x))
  | infinite {negative : Bool} : IsNormal (.binary (.infinite negative))
  | undefined : IsNormal (.binary .nan)

lemma isNormal_ofInteger (n : Int) : (ofInteger n).IsNormal := by
  rw [ofInteger]
  split
  · exact .infinite
  next hrange => exact .whole (not_lt.mp hrange)

lemma isNormal_ofBinary (x : Binary64) : (ofBinary x).IsNormal := by
  rw [ofBinary]
  split
  next n hn => exact .whole (le_largest_of_toInt? hn)
  next hnone =>
    cases x with
    | nan => exact .undefined
    | infinite negative => exact .infinite
    | finite negative x => exact .fraction (Binary64.toInt?_finite_eq_none_iff.mp hnone)

lemma isNormal_ofFloatText (cs : List Char) : (ofFloatText cs).IsNormal := by
  rw [ofFloatText]
  split
  · exact isNormal_ofBinary _
  · exact .undefined

lemma isNormal_ofDecimalInteger (cs : List Char) : (ofDecimalInteger cs).IsNormal := by
  rw [ofDecimalInteger]
  split
  · exact isNormal_ofFloatText cs
  split
  · exact isNormal_ofInteger _
  · exact isNormal_ofFloatText cs

lemma isNormal_capture (word : String) : (capture word).IsNormal := by
  rw [capture]
  split
  · exact .undefined
  split
  · exact isNormal_ofDecimalInteger _
  split
  · exact isNormal_ofInteger _
  · exact isNormal_ofFloatText _

/-! ## The syntax of amounts -/

/-- The word holds a character beyond ASCII or an underscore. -/
def IsBarred (word : String) : Prop :=
  ∃ c ∈ word.toList, 127 < c.toNat ∨ c = '_'

/-- An optional sign and decimal digits. -/
def IsSignedRun (cs : List Char) : Prop :=
  ∃ sign digits σ n, IsSign sign σ ∧ IsRun digits n ∧ cs = sign ++ digits

/-- The syntax of the words that stand for a number or an infinity. -/
def IsAmountText (cs : List Char) : Prop :=
  IsSignedRun cs ∨ (∃ n, IsMarked cs n) ∨ IsFloatText cs

lemma any_eq_true_iff_isBarred {word : String} :
    (word.toList.any fun c => 127 < c.toNat || c == '_') = true ↔ IsBarred word := by
  simp [IsBarred]

lemma isDecimalInteger_iff {cs : List Char} : isDecimalInteger cs = true ↔ IsSignedRun cs := by
  constructor
  · exact exists_of_isDecimalInteger
  · rintro ⟨sign, digits, σ, n, hsign, hdigits, rfl⟩
    exact isDecimalInteger_append hsign hdigits

lemma IsSignedRun.isFloatText {cs : List Char} (h : IsSignedRun cs) : IsFloatText cs := by
  obtain ⟨sign, digits, σ, n, hsign, hdigits, rfl⟩ := h
  have hfloating := IsFloating.number hsign (.whole hdigits) .absent
  rw [List.append_nil] at hfloating
  exact ⟨[], _, [], by simp, hfloating, by simp, by simp⟩

/-! ## The undefined number -/

lemma ofInteger_ne_undefined (n : Int) : ofInteger n ≠ .binary .nan := by
  rw [ofInteger]
  split <;> simp

lemma ofBinary_eq_undefined_iff {x : Binary64} : ofBinary x = .binary .nan ↔ x = .nan := by
  rw [ofBinary]
  cases hx : x.toInt? with
  | none => simp
  | some n =>
    refine iff_of_false (by simp) ?_
    rintro rfl
    cases hx

lemma ofFloatText_eq_undefined_iff {cs : List Char} :
    ofFloatText cs = .binary .nan ↔ ¬ IsFloatText cs := by
  rw [← Binary64.exists_read?_iff, ofFloatText]
  cases Binary64.read? cs with
  | none => simp
  | some x => simp [ofBinary_eq_undefined_iff]

lemma ofDecimalInteger_ne_undefined {cs : List Char} (h : IsSignedRun cs) :
    ofDecimalInteger cs ≠ .binary .nan := by
  have hfloat : ofFloatText cs ≠ .binary .nan :=
    fun hundefined => ofFloatText_eq_undefined_iff.mp hundefined h.isFloatText
  rw [ofDecimalInteger]
  split
  · exact hfloat
  split
  · exact ofInteger_ne_undefined _
  · exact hfloat

/-- Exactly the words that are barred, or are not in the syntax of amounts, stand for no number. -/
lemma capture_eq_undefined_iff {word : String} :
    capture word = .binary .nan ↔ IsBarred word ∨ ¬ IsAmountText word.toList := by
  rw [capture]
  split
  next hbarred => exact iff_of_true rfl (.inl (any_eq_true_iff_isBarred.mp hbarred))
  next hplain =>
    rw [any_eq_true_iff_isBarred] at hplain
    rw [or_iff_right hplain]
    split
    next hinteger =>
      have hrun := isDecimalInteger_iff.mp hinteger
      exact iff_of_false (ofDecimalInteger_ne_undefined hrun) (not_not.mpr (.inl hrun))
    next hinteger =>
      rw [isDecimalInteger_iff] at hinteger
      split
      next n hmarked =>
        have hsyntax := readMarked?_eq_some_iff.mp hmarked
        exact iff_of_false (ofInteger_ne_undefined n) (not_not.mpr (.inr (.inl ⟨n, hsyntax⟩)))
      next hmarked =>
        have hunmarked : ¬∃ n, IsMarked word.toList n := by
          rintro ⟨n, hn⟩
          rw [readMarked?_eq_some_iff.mpr hn] at hmarked
          cases hmarked
        rw [ofFloatText_eq_undefined_iff, IsAmountText, or_iff_right hinteger,
          or_iff_right hunmarked]

/-- Every word is captured as a number in normal form, and no conversion on the way is left without
a result.  The number is undefined exactly for the words that are barred or not in the syntax of
amounts.  So a captured number passes screening if and only if it is a positive integer, and a
context leaves it out, unless it leaves out the whole instruction, if and only if it is undefined or
infinite. -/
theorem capture_normalizes (word : String) :
    (capture word).IsNormal ∧ Converts word ∧
      (∀ n, readMarked? word.toList = some n ↔ IsMarked word.toList n) ∧
      (capture word = .binary .nan ↔ IsBarred word ∨ ¬ IsAmountText word.toList) ∧
      (∀ n, screenAmount (.number (capture word)) = .ok n ↔ capture word = .whole n ∧ 1 ≤ n) ∧
      ∀ {α δ : Type} (code : StatusCode) (reason : String) (i : Instruction α δ)
        (accounts : List Account),
        (FailureContext.describe code reason
          (some (i.mapAmount fun _ => .number (capture word))) accounts).amount = none ↔
            code.isSyntactic = true ∨ capture word = .binary .nan ∨
              ∃ negative, capture word = .binary (.infinite negative) := by
  refine ⟨isNormal_capture word, converts word, fun n => readMarked?_eq_some_iff,
    capture_eq_undefined_iff, fun n => ?_, fun code reason i accounts => ?_⟩
  · rw [screenAmount_eq_ok_iff, Scalar.whole, Scalar.number.injEq]
  · have hreported := (reported_number (capture word)).2
    simp only [FailureContext.describe]
    split
    next hsyntactic => exact iff_of_true rfl (.inl hsyntactic)
    next hsyntactic =>
      rw [or_iff_right hsyntactic]
      exact hreported

end Remittance.Number
