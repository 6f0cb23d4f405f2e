import Remittance.Proofs.Conversions
import Remittance.Proofs.JoinedWords

/-!
# Numbers in writing

A number that is written in decimal is a run of digits which stands for it (`isRun_natural`), and
zeros in front of it, as in the fields of a day, do not change that (`isRun_padded`).  An integer is
such a run behind its sign.  A word that is made like this is captured exactly as long as it is not
too long to be read (`Number.capture_append`), and no integer in the range of the floating-point
numbers is: `Number.capture_integer` says that each of them is captured from its own text.
-/

namespace Remittance

namespace Numeral

/-! ## Digits -/

/-- The digits of a number in a base: the last is the remainder by the base, and the ones before it
write the quotient. -/
lemma exists_digits_toDigits {base : Nat} (hbase : 1 < base) (n : Nat) :
    ∃ digits : List Nat, digits ≠ [] ∧ (∀ d ∈ digits, d < base) ∧
      Nat.toDigits base n = digits.map Nat.digitChar ∧ n = ofDigits base digits := by
  induction n using Nat.strong_induction_on with
  | _ n ih =>
    rcases Nat.lt_or_ge n base with hn | hn
    · exact ⟨[n], by simp, by simpa using hn, Nat.toDigits_of_lt_base hn, by simp [ofDigits]⟩
    · obtain ⟨front, hne, hlt, hfront, hvalue⟩ :=
        ih (n / base) (Nat.div_lt_self (by omega) hbase)
      have hlast : n % base < base := Nat.mod_lt n (by omega)
      refine ⟨front ++ [n % base], by simp, ?_, ?_, ?_⟩
      · exact List.forall_mem_append.mpr ⟨hlt, List.forall_mem_singleton.mpr hlast⟩
      · rw [Nat.toDigits_of_base_le hbase hn, hfront, List.map_append, List.map_singleton]
      · have hconcat : ofDigits base (front ++ [n % base]) =
            ofDigits base front * base + n % base := by
          simp [ofDigits]
        rw [hconcat, ← hvalue, Nat.div_add_mod']

/-- A written number is a run of digits that stands for it. -/
lemma isRun_natural (n : Nat) : IsRun (natural n) n :=
  exists_digits_toDigits (by decide) n

lemma isRun_of_lt_ten {n : Nat} (h : n < 10) : IsRun [Nat.digitChar n] n := by
  have hdigits := IsRun.of_digits [n] (by simp) (by simpa using h)
  simpa [ofDigits] using hdigits

/-- Zeros in front do not change what a run of digits stands for. -/
lemma IsRun.replicate_zero_append {cs : List Char} {n : Nat} (h : IsRun cs n) (count : Nat) :
    IsRun (List.replicate count '0' ++ cs) n := by
  induction count with
  | zero => exact h
  | succ count ih =>
    have hzero : IsRun [Nat.digitChar 0] 0 := isRun_of_lt_ten (by decide)
    have hrun := hzero.append ih
    rwa [Nat.zero_mul, Nat.zero_add] at hrun

lemma isRun_padded (width n : Nat) : IsRun (padded width n) n :=
  (isRun_natural n).replicate_zero_append _

lemma length_padded {width n : Nat} (hwidth : 0 < width) (h : n < 10 ^ width) :
    (padded width n).length = width := by
  have hlength : (natural n).length ≤ width :=
    (Nat.length_toDigits_le_iff (by decide) hwidth).mpr h
  rw [padded, List.length_append, List.length_replicate]
  omega

/-! ## Integers -/

/-- An integer is written as its sign and the digits of its absolute value. -/
lemma exists_toList_integer (n : Int) :
    ∃ sign σ, IsSign sign σ ∧ (integer n).toList = sign ++ natural n.natAbs ∧
      σ * (n.natAbs : Int) = n := by
  rw [integer, String.toList_ofList]
  by_cases hn : n < 0
  · rw [if_pos hn]
    exact ⟨['-'], -1, .minus, rfl, by omega⟩
  · rw [if_neg hn]
    exact ⟨[], 1, .absent, rfl, by omega⟩

lemma integer_ne_empty (n : Int) : integer n ≠ "" := by
  obtain ⟨sign, σ, _, htext, _⟩ := exists_toList_integer n
  intro hempty
  rw [hempty, String.toList_empty, eq_comm, List.append_eq_nil_iff] at htext
  exact (isRun_natural n.natAbs).ne_nil htext.2

/-- An integer is read back from its text. -/
lemma readInteger?_integer (n : Int) : readInteger? (integer n).toList = some n := by
  obtain ⟨sign, σ, hsign, htext, hvalue⟩ := exists_toList_integer n
  rw [htext, readInteger?_append hsign (isRun_natural n.natAbs), hvalue]

lemma integer_injective : Function.Injective integer := by
  have hback : (fun s : String => readInteger? s.toList) ∘ integer = some :=
    funext readInteger?_integer
  exact .of_comp (hback ▸ Option.some_injective _)

lemma mem_integer {n : Int} {c : Char} (hc : c ∈ (integer n).toList) :
    c ∈ '-' :: digitCharacters := by
  have hdigits : ∀ c ∈ natural n.natAbs, c ∈ '-' :: digitCharacters := fun c hc =>
    List.mem_cons_of_mem _ ((isRun_natural n.natAbs).mem_digitCharacters hc)
  rw [integer, String.toList_ofList] at hc
  split at hc
  · rcases List.mem_cons.mp hc with rfl | hc
    · exact List.mem_cons_self
    · exact hdigits c hc
  · exact hdigits c hc

end Numeral

open Numeral

/-- A text of digits and dashes can stand in a sentence. -/
lemma Text.isPlainWord_of_digits {word : String} (hne : word ≠ "")
    (h : ∀ c ∈ word.toList, c ∈ '-' :: digitCharacters) : IsPlainWord word := by
  have hplain : ('-' :: digitCharacters).all
      (fun c => !isWordBreak c && !isTrimmable c) = true := by
    decide
  refine ⟨hne, fun c hc => ?_⟩
  simpa using List.all_eq_true.mp hplain c (h c hc)

lemma Text.isPlainWord_integer (n : Int) : IsPlainWord (integer n) :=
  isPlainWord_of_digits (integer_ne_empty n) fun _ hc => mem_integer hc

/-! ## Integers as amounts -/

namespace Number

/-- Behind its sign a run of digits is found again. -/
lemma takeSign_digits {sign digits : List Char} {σ : Int} {n : Nat} (hsign : IsSign sign σ)
    (hdigits : IsRun digits n) : (takeSign (sign ++ digits)).2 = digits := by
  obtain ⟨c, later, rfl, hc⟩ := hdigits.exists_cons
  rw [hsign.takeSign_append hc]

lemma isDecimalInteger_append {sign digits : List Char} {σ : Int} {n : Nat}
    (hsign : IsSign sign σ) (hdigits : IsRun digits n) :
    isDecimalInteger (sign ++ digits) = true := by
  have hall : digits.all isDecimalDigit = true :=
    List.all_eq_true.mpr fun _ hc => hdigits.isDecimalDigit hc
  simp [isDecimalInteger, takeSign_digits hsign hdigits, hdigits.ne_nil, hall]

/-- A sign and digits are captured as a decimal integer. -/
lemma capture_eq_ofDecimalInteger {sign digits : List Char} {σ : Int} {n : Nat}
    (hsign : IsSign sign σ) (hdigits : IsRun digits n) :
    capture (String.ofList (sign ++ digits)) = ofDecimalInteger (sign ++ digits) := by
  have hplain : ∀ c ∈ sign ++ digits, c ∈ decimalCharacters :=
    List.forall_mem_append.mpr ⟨hsign.mem_decimalCharacters, hdigits.mem_decimalCharacters⟩
  rw [capture, String.toList_ofList, any_eq_false_of_decimalCharacters hplain,
    isDecimalInteger_append hsign hdigits]
  simp only [Bool.false_eq_true, if_false, if_true]

/-- A sign and digits that are not too many are captured as the integer that they stand for, unless
it is out of range. -/
lemma capture_append {sign digits : List Char} {σ : Int} {n : Nat} (hsign : IsSign sign σ)
    (hdigits : IsRun digits n) (hlimit : digits.length ≤ digitLimit) :
    capture (String.ofList (sign ++ digits)) = ofInteger (σ * n) := by
  rw [capture_eq_ofDecimalInteger hsign hdigits, ofDecimalInteger, takeSign_digits hsign hdigits,
    if_neg (Nat.not_lt.mpr hlimit), readInteger?_append hsign hdigits]

/-- An integer in the range of the floating-point numbers is captured from its own text. -/
theorem capture_integer {n : Int} (h : n.natAbs ≤ Magnitude.largest) :
    capture (integer n) = .whole n := by
  obtain ⟨sign, σ, hsign, htext, hvalue⟩ := exists_toList_integer n
  have hlimit : (natural n.natAbs).length ≤ digitLimit :=
    Nat.toDigits_length 10 n.natAbs digitLimit (by decide) (h.trans_lt largest_lt)
  have hcapture := capture_append hsign (isRun_natural n.natAbs) hlimit
  rw [← htext, String.ofList_toList, hvalue] at hcapture
  rw [hcapture, ofInteger, if_neg (Nat.not_lt.mpr h)]

end Number

end Remittance
