import Mathlib.Data.Nat.Digits.Defs
import Remittance.Proofs.Rounding

/-!
# Conversions between words and numbers

Capturing an amount and reading a day convert runs of digits without a way out for a failure, and
messages write captured integers without one.  `Number.converts` says that none is needed: a word
that looks like a decimal integer can be read as an integer and as a floating-point number, and a
captured integer has few enough digits to be written.
-/

namespace Remittance.Numeral

/-! ## Reading -/

lemma exists_digitChar {c : Char} (h : c ∈ digitCharacters) : ∃ d < 10, c = Nat.digitChar d := by
  have hall : digitCharacters = (List.range 10).map Nat.digitChar := by decide
  rw [hall] at h
  obtain ⟨d, hd, rfl⟩ := List.mem_map.mp h
  exact ⟨d, List.mem_range.mp hd, rfl⟩

/-- Characters that are all digits are a run. -/
lemma exists_isRun {cs : List Char} (hne : cs ≠ []) (h : ∀ c ∈ cs, isDecimalDigit c = true) :
    ∃ n, IsRun cs n := by
  have hdigits : ∃ digits : List Nat, (∀ d ∈ digits, d < 10) ∧ cs = digits.map Nat.digitChar := by
    clear hne
    induction cs with
    | nil => exact ⟨[], List.forall_mem_nil _, rfl⟩
    | cons c cs ih =>
      obtain ⟨hc, hcs⟩ := List.forall_mem_cons.mp h
      obtain ⟨d, hd, rfl⟩ := exists_digitChar (isDecimalDigit_iff.mp hc)
      obtain ⟨digits, hlt, rfl⟩ := ih hcs
      exact ⟨d :: digits, List.forall_mem_cons.mpr ⟨hd, hlt⟩, rfl⟩
  obtain ⟨digits, hlt, rfl⟩ := hdigits
  exact ⟨_, .of_digits digits (fun hnil => hne (by rw [hnil, List.map_nil])) hlt⟩

lemma exists_isSign (cs : List Char) : ∃ sign σ, IsSign sign σ ∧ cs = sign ++ (takeSign cs).2 := by
  unfold takeSign
  split
  · exact ⟨_, _, .minus, rfl⟩
  · exact ⟨_, _, .plus, rfl⟩
  · exact ⟨_, _, .absent, rfl⟩

lemma isDecimalDigit_of_mapM {cs : List Char} {digits : List Nat}
    (h : cs.mapM (digit? 10) = some digits) : ∀ c ∈ cs, isDecimalDigit c = true := by
  induction cs generalizing digits with
  | nil => exact List.forall_mem_nil _
  | cons c cs ih =>
    rw [List.mapM_cons] at h
    obtain ⟨d, hd, h⟩ := Option.bind_eq_some_iff.mp h
    obtain ⟨later, hlater, _⟩ := Option.bind_eq_some_iff.mp h
    exact List.forall_mem_cons.mpr ⟨Option.isSome_of_eq_some hd, ih hlater⟩

lemma isRun_of_readDigits? {cs : List Char} {n : Nat} (h : readDigits? 10 cs = some n) :
    IsRun cs n := by
  have hread := h
  rw [readDigits?] at h
  split at h
  · cases h
  next hne =>
    obtain ⟨digits, hdigits, _⟩ := Option.map_eq_some_iff.mp h
    obtain ⟨m, hrun⟩ := exists_isRun (by simpa using hne) (isDecimalDigit_of_mapM hdigits)
    rw [hrun.readDigits?] at hread
    rwa [← Option.some.inj hread]

/-- What is read as an integer is a sign and a run of digits. -/
lemma exists_of_readInteger? {cs : List Char} {v : Int} (h : readInteger? cs = some v) :
    ∃ sign digits σ n, IsSign sign σ ∧ IsRun digits n ∧ cs = sign ++ digits ∧ v = σ * n := by
  obtain ⟨sign, σ, hsign, hcs⟩ := exists_isSign cs
  have hdigits : (readDigits? 10 (takeSign cs).2).map (withSign (takeSign cs).1) = some v := h
  obtain ⟨n, hn, _⟩ := Option.map_eq_some_iff.mp hdigits
  have hrun := isRun_of_readDigits? hn
  have hread := readInteger?_append hsign hrun
  rw [← hcs, h] at hread
  exact ⟨sign, _, σ, n, hsign, hrun, hcs, Option.some.inj hread⟩

/-- A word that looks like a decimal integer is one. -/
lemma exists_of_isDecimalInteger {cs : List Char} (h : Number.isDecimalInteger cs = true) :
    ∃ sign digits σ n, IsSign sign σ ∧ IsRun digits n ∧ cs = sign ++ digits := by
  obtain ⟨sign, σ, hsign, hcs⟩ := exists_isSign cs
  simp only [Number.isDecimalInteger, Bool.and_eq_true, List.all_eq_true, Bool.not_eq_true',
    List.isEmpty_eq_false_iff] at h
  obtain ⟨n, hrun⟩ := exists_isRun h.1 h.2
  exact ⟨sign, _, σ, n, hsign, hrun, hcs⟩

/-! ## Writing -/

lemma step_le_most {e : Nat} (h : e ≤ exponentMost) : step e ≤ 2 ^ 971 := by
  have hmost : step exponentMost = 2 ^ 971 := step_add_unitExponent 971
  rw [← hmost, step, step]
  exact div_le_div_of_nonneg_right (pow_le_pow_right₀ (by norm_num) h) unitsInOne_pos.le

lemma largest_eq : Magnitude.largest = (mantissaLimit - 1) * 2 ^ 971 := by
  unfold Magnitude.largest
  generalize 971 = k
  rfl

/-- No magnitude is above the largest whole number. -/
lemma Magnitude.value_le_largest (x : Magnitude) : x.value ≤ largest := by
  have hmantissa : (x.mantissa : ℚ) ≤ (mantissaLimit - 1 : Nat) := by
    exact_mod_cast Nat.le_sub_one_of_lt x.canonical.1
  rw [x.value_eq, largest_eq, Nat.cast_mul, Nat.cast_pow]
  exact mul_le_mul hmantissa (step_le_most x.canonical.2.1) (step_pos _).le (Nat.cast_nonneg _)

lemma mul_two_pow_lt_ten_pow {c k j : Nat} (hc : c < 2 ^ 53) (h : 53 + k ≤ 3 * j) :
    c * 2 ^ k < 10 ^ j :=
  calc c * 2 ^ k < 2 ^ 53 * 2 ^ k := Nat.mul_lt_mul_of_pos_right hc (Nat.two_pow_pos k)
    _ = 2 ^ (53 + k) := (Nat.pow_add 2 53 k).symm
    _ ≤ 10 ^ j := two_pow_le_ten_pow h

/-- Not all digits of the limit are needed. -/
lemma largest_lt : Magnitude.largest < 10 ^ digitLimit := by
  rw [largest_eq]
  exact mul_two_pow_lt_ten_pow (by decide) (by decide)

lemma le_largest_of_toInt? {x : Binary64} {n : Int} (h : x.toInt? = some n) :
    n.natAbs ≤ Magnitude.largest := by
  cases x with
  | nan => cases h
  | infinite negative => cases h
  | finite negative x =>
    have hvalue := Binary64.toInt?_finite_eq_some_iff.mp h
    have habs : (n.natAbs : ℚ) = x.value := by
      rw [Nat.cast_natAbs, Int.cast_abs, ← hvalue, Binary64.abs_signFactor_mul negative x.value_nonneg]
    exact_mod_cast habs.trans_le x.value_le_largest

end Numeral

namespace Number

open Numeral

lemma le_largest_of_ofInteger {k n : Int} (h : ofInteger k = .whole n) :
    n.natAbs ≤ Magnitude.largest := by
  rw [ofInteger] at h
  split at h
  · cases h
  next hle =>
    cases h
    exact not_lt.mp hle

lemma le_largest_of_ofBinary {x : Binary64} {n : Int} (h : ofBinary x = .whole n) :
    n.natAbs ≤ Magnitude.largest := by
  rw [ofBinary] at h
  split at h
  next m hm =>
    cases h
    exact le_largest_of_toInt? hm
  · cases h

lemma le_largest_of_ofFloatText {cs : List Char} {n : Int} (h : ofFloatText cs = .whole n) :
    n.natAbs ≤ Magnitude.largest := by
  rw [ofFloatText] at h
  split at h
  · exact le_largest_of_ofBinary h
  · cases h

/-- A captured integer is in the range of the floating-point numbers. -/
lemma le_largest_of_capture {word : String} {n : Int} (h : capture word = .whole n) :
    n.natAbs ≤ Magnitude.largest := by
  rw [capture] at h
  split at h
  · cases h
  split at h
  · rw [ofDecimalInteger] at h
    split at h
    · exact le_largest_of_ofFloatText h
    split at h
    · exact le_largest_of_ofInteger h
    · exact le_largest_of_ofFloatText h
  split at h
  · exact le_largest_of_ofInteger h
  · exact le_largest_of_ofFloatText h

/-- The conversions that a word goes through without a way out. -/
structure Converts (word : String) : Prop where
  /-- Read as an integer, as an amount or as a field of a day. -/
  exact : isDecimalInteger word.toList = true → ∃ n, readInteger? word.toList = some n
  /-- Read as a floating-point number, where there are too many digits to be read as an integer. -/
  rounded : isDecimalInteger word.toList = true → ∃ x, Binary64.read? word.toList = some x
  /-- Written in a message. -/
  shown : ∀ n, capture word = .whole n → (natural n.natAbs).length ≤ digitLimit

theorem converts (word : String) : Converts word := by
  refine ⟨fun h => ?_, fun h => ?_, fun n h => ?_⟩
  · obtain ⟨sign, digits, σ, n, hsign, hrun, hword⟩ := exists_of_isDecimalInteger h
    rw [hword]
    exact ⟨_, readInteger?_append hsign hrun⟩
  · obtain ⟨sign, digits, σ, n, hsign, hrun, hword⟩ := exists_of_isDecimalInteger h
    have hdenotes := Denotes.intro hsign hrun .absent .absent
    rw [List.append_nil, List.append_nil, ← hword] at hdenotes
    obtain ⟨d, hread, _⟩ := hdenotes.binaryRead?
    exact ⟨_, hread⟩
  · have hlt := (le_largest_of_capture h).trans_lt largest_lt
    exact Nat.toDigits_length 10 n.natAbs digitLimit (by decide) hlt

end Number

end Remittance
