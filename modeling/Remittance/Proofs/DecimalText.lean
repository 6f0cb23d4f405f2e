import Mathlib.Algebra.Order.Field.Rat
import Mathlib.Tactic.FieldSimp
import Mathlib.Tactic.IntervalCases
import Mathlib.Tactic.Ring
import Remittance.Amount

/-!
# Numbers in decimal notation

`Denotes cs q` is the grammar of decimal numbers together with what they mean: an optional sign, a
run of digits, optionally a point and another run, and optionally an exponent denote a rational
number.  Nothing in it refers to the reader.

The reader accepts every such text and reads the number that it denotes (`Denotes.decimalRead?`).
If the number is no integer, the text is no amount of another kind either, so that the amount
captured from it is the nearest floating-point number (`Denotes.capture`).
-/

namespace Remittance.Numeral

/-! ## The grammar -/

/-- An optional sign, with the factor that it stands for. -/
inductive IsSign : List Char → Int → Prop
  | absent : IsSign [] 1
  | plus : IsSign ['+'] 1
  | minus : IsSign ['-'] (-1)

/-- A run of decimal digits, with the number that it stands for. -/
def IsRun (cs : List Char) (n : Nat) : Prop :=
  ∃ digits : List Nat, digits ≠ [] ∧ (∀ d ∈ digits, d < 10) ∧ cs = digits.map Nat.digitChar ∧
    n = ofDigits 10 digits

/-- The optional fraction of a number: its digits as one number, and how many they are. -/
inductive IsFraction : List Char → Nat → Nat → Prop
  | absent : IsFraction [] 0 0
  | present {digits : List Char} {m : Nat} (hdigits : IsRun digits m) :
    IsFraction ('.' :: digits) m digits.length

/-- The optional exponent of a number. -/
inductive IsExponent : List Char → Int → Prop
  | absent : IsExponent [] 0
  | present {mark : Char} {sign digits : List Char} {σ : Int} {n : Nat} (hmark : mark = 'e' ∨ mark = 'E')
    (hsign : IsSign sign σ) (hdigits : IsRun digits n) :
    IsExponent (mark :: (sign ++ digits)) (σ * n)

/-- The text is in decimal notation and denotes the rational number. -/
inductive Denotes : List Char → ℚ → Prop
  | intro {sign whole fraction exponent : List Char} {σ : Int} {n m k : Nat} {e : Int}
    (hsign : IsSign sign σ) (hwhole : IsRun whole n) (hfraction : IsFraction fraction m k)
    (hexponent : IsExponent exponent e) :
    Denotes (sign ++ (whole ++ (fraction ++ exponent))) (σ * (n + m / 10 ^ k) * 10 ^ e)

/-! ## Digits -/

lemma digit?_digitChar {d : Nat} (h : d < 10) : digit? 10 (Nat.digitChar d) = some d := by
  interval_cases d <;> decide

lemma mapM_digit? {digits : List Nat} (h : ∀ d ∈ digits, d < 10) :
    (digits.map Nat.digitChar).mapM (digit? 10) = some digits := by
  induction digits with
  | nil => rfl
  | cons d later ih =>
    obtain ⟨hd, hlater⟩ := List.forall_mem_cons.mp h
    rw [List.map_cons, List.mapM_cons, digit?_digitChar hd, ih hlater]
    rfl

lemma foldl_digits (start : Nat) (digits : List Nat) :
    digits.foldl (fun value digit => value * 10 + digit) start =
      start * 10 ^ digits.length + ofDigits 10 digits := by
  induction digits generalizing start with
  | nil => simp [ofDigits]
  | cons d later ih =>
    have hlater := ih (start * 10 + d)
    have hwhole : ofDigits 10 (d :: later) = (0 * 10 + d) * 10 ^ later.length + ofDigits 10 later :=
      ih (0 * 10 + d)
    rw [List.foldl_cons, hlater, hwhole, List.length_cons, pow_succ]
    ring

lemma ofDigits_append (front back : List Nat) :
    ofDigits 10 (front ++ back) = ofDigits 10 front * 10 ^ back.length + ofDigits 10 back := by
  rw [ofDigits, List.foldl_append, foldl_digits]
  rfl

/-- The ten decimal digits as characters. -/
def digitCharacters : List Char :=
  ['0', '1', '2', '3', '4', '5', '6', '7', '8', '9']

lemma digitChar_mem {d : Nat} (h : d < 10) : Nat.digitChar d ∈ digitCharacters := by
  interval_cases d <;> decide

lemma range_of_digit? {c : Char} {d : Nat} (h : digit? 10 c = some d) :
    48 ≤ c.toNat ∧ c.toNat ≤ 57 := by
  have h0 : '0'.val.toNat = 48 := rfl
  have h9 : '9'.val.toNat = 57 := rfl
  have ha : 'a'.val.toNat = 97 := rfl
  have hA : 'A'.val.toNat = 65 := rfl
  have hc : c.val.toNat = c.toNat := rfl
  simp only [digit?, Char.le_def, UInt32.le_iff_toNat_le, h0, h9, ha, hA, hc] at h
  grind

lemma isDecimalDigit_iff {c : Char} : isDecimalDigit c = true ↔ c ∈ digitCharacters := by
  constructor
  · intro h
    obtain ⟨d, hd⟩ := Option.isSome_iff_exists.mp h
    obtain ⟨hlow, hhigh⟩ := range_of_digit? hd
    rw [← Char.ofNat_toNat c]
    interval_cases c.toNat <;> decide
  · intro h
    have hall : digitCharacters.all isDecimalDigit = true := by decide
    exact List.all_eq_true.mp hall c h

namespace IsRun

variable {cs : List Char} {n : Nat}

lemma of_digits (digits : List Nat) (hne : digits ≠ []) (hlt : ∀ d ∈ digits, d < 10) :
    IsRun (digits.map Nat.digitChar) (ofDigits 10 digits) :=
  ⟨digits, hne, hlt, rfl, rfl⟩

lemma ne_nil (h : IsRun cs n) : cs ≠ [] := by
  obtain ⟨digits, hne, _, rfl, _⟩ := h
  exact fun hnil => hne (List.map_eq_nil_iff.mp hnil)

lemma mem_digitCharacters (h : IsRun cs n) {c : Char} (hc : c ∈ cs) : c ∈ digitCharacters := by
  obtain ⟨digits, _, hlt, rfl, _⟩ := h
  obtain ⟨d, hd, rfl⟩ := List.mem_map.mp hc
  exact digitChar_mem (hlt d hd)

lemma isDecimalDigit (h : IsRun cs n) {c : Char} (hc : c ∈ cs) : Numeral.isDecimalDigit c = true :=
  isDecimalDigit_iff.mpr (h.mem_digitCharacters hc)

lemma readDigits? (h : IsRun cs n) : Numeral.readDigits? 10 cs = some n := by
  have hne := h.ne_nil
  obtain ⟨digits, _, hlt, rfl, rfl⟩ := h
  rw [Numeral.readDigits?, if_neg (by simpa using hne), mapM_digit? hlt]
  rfl

/-- Two runs in a row are one run. -/
lemma append {ds : List Char} {m : Nat} (h : IsRun cs n) (h' : IsRun ds m) :
    IsRun (cs ++ ds) (n * 10 ^ ds.length + m) := by
  obtain ⟨front, hne, hfront, rfl, rfl⟩ := h
  obtain ⟨back, _, hback, rfl, rfl⟩ := h'
  refine ⟨front ++ back, by simp [hne], ?_, by rw [List.map_append], ?_⟩
  · intro d hd
    exact (List.mem_append.mp hd).elim (hfront d) (hback d)
  · rw [ofDigits_append, List.length_map]

/-- A run starts with a digit, so that neither a sign nor a word can be read off its front. -/
lemma exists_cons (h : IsRun cs n) : ∃ c later, cs = c :: later ∧ c ∈ digitCharacters := by
  obtain ⟨c, later, rfl⟩ := List.exists_cons_of_ne_nil h.ne_nil
  exact ⟨c, later, rfl, h.mem_digitCharacters List.mem_cons_self⟩

end IsRun

/-! ## The parts of a number -/

lemma span_append {p : Char → Bool} {front back : List Char} (hfront : ∀ c ∈ front, p c = true)
    (hback : ∀ c ∈ back.head?, p c = false) : (front ++ back).span p = (front, back) := by
  have hstop : ∀ {c later}, back = c :: later → ¬p c = true := by
    rintro c later rfl
    simp [hback c (by simp)]
  rw [List.span_eq_takeWhile_dropWhile, List.takeWhile_append_of_pos hfront,
    List.dropWhile_append_of_pos hfront]
  cases back with
  | nil => simp
  | cons c later =>
    rw [List.takeWhile_cons_of_neg (hstop rfl), List.dropWhile_cons_of_neg (hstop rfl),
      List.append_nil]

namespace IsSign

variable {sign : List Char} {σ : Int}

lemma takeSign_append (h : IsSign sign σ) {c : Char} (hc : c ∈ digitCharacters)
    (later : List Char) : takeSign (sign ++ c :: later) = (decide (σ < 0), c :: later) := by
  cases h with
  | plus => rfl
  | minus => rfl
  | absent =>
    have hsign : c ≠ '-' ∧ c ≠ '+' := by
      constructor <;> rintro rfl <;> revert hc <;> decide
    simp [takeSign, hsign]

lemma withSign_eq (h : IsSign sign σ) (n : Nat) : withSign (decide (σ < 0)) n = σ * n := by
  cases h <;> simp [withSign]

end IsSign

lemma readInteger?_append {sign digits : List Char} {σ : Int} {n : Nat} (hsign : IsSign sign σ)
    (hdigits : IsRun digits n) : readInteger? (sign ++ digits) = some (σ * n) := by
  have hread := hdigits.readDigits?
  obtain ⟨c, later, rfl, hc⟩ := hdigits.exists_cons
  rw [readInteger?, hsign.takeSign_append hc]
  simp only [hread, Option.map_some, hsign.withSign_eq]

namespace IsExponent

variable {exponent : List Char} {e : Int}

lemma readExponent? (h : IsExponent exponent e) : Decimal.readExponent? exponent = some e := by
  cases h with
  | absent => rfl
  | present hmark hsign hdigits =>
    rw [Decimal.readExponent?, if_pos hmark, readInteger?_append hsign hdigits]

lemma head?_not_digit (h : IsExponent exponent e) :
    ∀ c ∈ exponent.head?, Numeral.isDecimalDigit c = false := by
  cases h with
  | absent => simp
  | present hmark _ _ => rcases hmark with rfl | rfl <;> simp <;> decide

lemma takeFraction (h : IsExponent exponent e) : Decimal.takeFraction exponent = ([], exponent) := by
  cases h with
  | absent => rfl
  | present hmark _ _ => rcases hmark with rfl | rfl <;> rfl

end IsExponent

namespace IsFraction

variable {fraction exponent : List Char} {m k : Nat} {e : Int}

lemma head?_not_digit (h : IsFraction fraction m k) (hexponent : IsExponent exponent e) :
    ∀ c ∈ (fraction ++ exponent).head?, Numeral.isDecimalDigit c = false := by
  cases h with
  | absent => exact hexponent.head?_not_digit
  | present _ => simp; decide

/-- The digits of the fraction go on from the digits before the point. -/
lemma takeFraction (h : IsFraction fraction m k) (hexponent : IsExponent exponent e) :
    ∃ digits, Decimal.takeFraction (fraction ++ exponent) = (digits, exponent) ∧
      digits.length = k ∧
      ∀ {whole n}, IsRun whole n → IsRun (whole ++ digits) (n * 10 ^ k + m) := by
  cases h with
  | absent => exact ⟨[], hexponent.takeFraction, rfl, fun hwhole => by simpa using hwhole⟩
  | @present digits _ hdigits =>
    refine ⟨digits, ?_, rfl, fun hwhole => hwhole.append hdigits⟩
    exact span_append (fun _ => hdigits.isDecimalDigit) hexponent.head?_not_digit

end IsFraction

/-! ## The number that is read -/

/-- The factor that a sign stands for. -/
def signFactor (negative : Bool) : ℚ :=
  if negative then -1 else 1

/-- The rational number that a decimal stands for. -/
def Decimal.value (d : Decimal) : ℚ :=
  signFactor d.negative * d.coefficient * 10 ^ d.exponent

lemma IsSign.signFactor_eq {sign : List Char} {σ : Int} (h : IsSign sign σ) :
    signFactor (decide (σ < 0)) = σ := by
  cases h <;> simp [signFactor]

/-- Shifting the point to the right end of the fraction changes the exponent only. -/
lemma shift_point (n m k : Nat) (e : Int) :
    ((n * 10 ^ k + m : Nat) : ℚ) * 10 ^ (e - k) = (n + m / 10 ^ k) * 10 ^ e := by
  rw [zpow_sub₀ (by norm_num), zpow_natCast]
  push_cast
  field_simp

namespace Denotes

variable {cs : List Char} {q : ℚ}

/-- A number in decimal notation is read as what it denotes. -/
theorem decimalRead? (h : Denotes cs q) : ∃ d, Decimal.read? cs = some d ∧ d.value = q := by
  obtain @⟨sign, whole, fraction, exponent, σ, n, m, k, e, hsign, hwhole, hfraction, hexponent⟩ := h
  obtain ⟨digits, htake, hlength, hdigits⟩ := hfraction.takeFraction hexponent
  have hspan := span_append (fun _ => hwhole.isDecimalDigit) (hfraction.head?_not_digit hexponent)
  refine ⟨⟨decide (σ < 0), n * 10 ^ k + m, e - k⟩, ?_, ?_⟩
  · obtain ⟨c, later, rfl, hc⟩ := hwhole.exists_cons
    rw [Decimal.read?, List.cons_append, hsign.takeSign_append hc]
    simp only [← List.cons_append, hspan, htake, (hdigits hwhole).readDigits?,
      hexponent.readExponent?, hlength]
    rfl
  · simp only [Decimal.value]
    rw [hsign.signFactor_eq, mul_assoc, shift_point, mul_assoc]

end Denotes

/-! ## The number that is captured -/

/-- The characters of decimal notation. -/
def decimalCharacters : List Char :=
  digitCharacters ++ ['+', '-', '.', 'e', 'E']

lemma IsRun.mem_decimalCharacters {cs : List Char} {n : Nat} (h : IsRun cs n) :
    ∀ c ∈ cs, c ∈ decimalCharacters :=
  fun _ hc => List.mem_append_left _ (h.mem_digitCharacters hc)

lemma IsSign.mem_decimalCharacters {sign : List Char} {σ : Int} (h : IsSign sign σ) :
    ∀ c ∈ sign, c ∈ decimalCharacters := by
  cases h <;> simp [decimalCharacters]

lemma IsFraction.mem_decimalCharacters {fraction : List Char} {m k : Nat}
    (h : IsFraction fraction m k) : ∀ c ∈ fraction, c ∈ decimalCharacters := by
  cases h with
  | absent => simp
  | present hdigits => exact List.forall_mem_cons.mpr ⟨by decide, hdigits.mem_decimalCharacters⟩

lemma IsExponent.mem_decimalCharacters {exponent : List Char} {e : Int}
    (h : IsExponent exponent e) : ∀ c ∈ exponent, c ∈ decimalCharacters := by
  cases h with
  | absent => simp
  | present hmark hsign hdigits =>
    refine List.forall_mem_cons.mpr ⟨by rcases hmark with rfl | rfl <;> decide, ?_⟩
    exact List.forall_mem_append.mpr ⟨hsign.mem_decimalCharacters, hdigits.mem_decimalCharacters⟩

lemma trimWith_eq_self {blank : Char → Bool} {cs : List Char} (h : ∀ c ∈ cs, blank c = false) :
    Text.trimWith blank cs = cs := by
  have hdrop : ∀ {ds : List Char}, (∀ c ∈ ds, blank c = false) → ds.dropWhile blank = ds := by
    rintro (_ | ⟨c, later⟩) hds
    · rfl
    · exact List.dropWhile_cons_of_neg (by simp [hds c List.mem_cons_self])
  rw [Text.trimWith, hdrop h, hdrop (by simpa using h), List.reverse_reverse]

/-- A word starts with one of two letters. -/
lemma Binary64.ofWord?_cons_eq_none {c : Char} (hi : Text.lowerAscii c ≠ 'i')
    (hn : Text.lowerAscii c ≠ 'n') (negative : Bool) (later : List Char) :
    ofWord? negative (c :: later) = none := by
  have hinf : "inf".toList = 'i' :: ['n', 'f'] := rfl
  have hinfinity : "infinity".toList = 'i' :: ['n', 'f', 'i', 'n', 'i', 't', 'y'] := rfl
  have hnan : "nan".toList = 'n' :: ['a', 'n'] := rfl
  simp [ofWord?, hinf, hinfinity, hnan, hi, hn]

lemma ofWord?_cons_digit {c : Char} (hc : c ∈ digitCharacters) (negative : Bool)
    (later : List Char) : Binary64.ofWord? negative (c :: later) = none := by
  have hletters : ∀ d ∈ digitCharacters, Text.lowerAscii d ≠ 'i' ∧ Text.lowerAscii d ≠ 'n' := by
    simp [digitCharacters, Text.lowerAscii]
  obtain ⟨hi, hn⟩ := hletters c hc
  exact Binary64.ofWord?_cons_eq_none hi hn negative later

/-- Decimal notation has no character that keeps a word from being an amount. -/
lemma any_eq_false_of_decimalCharacters {cs : List Char} (h : ∀ c ∈ cs, c ∈ decimalCharacters) :
    (cs.any fun c => 127 < c.toNat || c == '_') = false := by
  have hplain : (decimalCharacters.any fun c => 127 < c.toNat || c == '_') = false := by decide
  rw [List.any_eq_false]
  exact fun c hc => List.any_eq_false.mp hplain c (h c hc)

lemma readMarked?_eq_none {cs : List Char} (h : ∀ c ∈ cs, c ∈ decimalCharacters) :
    Number.readMarked? cs = none := by
  unfold Number.readMarked?
  split
  next mark digits =>
    have hmark : mark ∈ decimalCharacters := h mark (by simp)
    have hmarks : ∀ {upper lower : Char}, lower ∉ decimalCharacters → upper ∉ decimalCharacters →
        ¬(mark = lower ∨ mark = upper) := by
      rintro upper lower hlower hupper (rfl | rfl)
      · exact hlower hmark
      · exact hupper hmark
    rw [if_neg (hmarks (by decide) (by decide)), if_neg (hmarks (by decide) (by decide)),
      if_neg (hmarks (by decide) (by decide))]
  · rfl

namespace Denotes

variable {cs : List Char} {q : ℚ}

lemma mem_decimalCharacters (h : Denotes cs q) : ∀ c ∈ cs, c ∈ decimalCharacters := by
  obtain ⟨hsign, hwhole, hfraction, hexponent⟩ := h
  simp only [List.forall_mem_append]
  exact ⟨hsign.mem_decimalCharacters, hwhole.mem_decimalCharacters,
    hfraction.mem_decimalCharacters, hexponent.mem_decimalCharacters⟩

/-- As a floating-point number the text is the number nearest to what it denotes. -/
lemma binaryRead? (h : Denotes cs q) :
    ∃ d : Decimal, Binary64.read? cs = some d.nearest ∧ d.value = q := by
  obtain ⟨d, hread, hvalue⟩ := h.decimalRead?
  refine ⟨d, ?_, hvalue⟩
  have hblank : decimalCharacters.any Text.isAsciiBlank = false := by decide
  have htrim : Text.trimWith Text.isAsciiBlank cs = cs := by
    refine trimWith_eq_self fun c hc => Bool.eq_false_iff.mpr ?_
    exact List.any_eq_false.mp hblank c (h.mem_decimalCharacters c hc)
  have hword : Binary64.ofWord? (takeSign cs).1 (takeSign cs).2 = none := by
    obtain ⟨hsign, hwhole, _, _⟩ := h
    obtain ⟨c, later, rfl, hc⟩ := hwhole.exists_cons
    rw [List.cons_append, hsign.takeSign_append hc]
    exact ofWord?_cons_digit hc _ _
  rw [Binary64.read?, htrim, Binary64.ofText?]
  simp only [hword, hread, Option.map_some]

/-- A text without a point and an exponent denotes an integer. -/
lemma exists_eq_intCast (h : Denotes cs q) (hdigits : Number.isDecimalInteger cs = true) :
    ∃ n : Int, q = n := by
  obtain @⟨sign, whole, fraction, exponent, σ, n, m, k, e, hsign, hwhole, hfraction, hexponent⟩ := h
  have hall : ∀ c ∈ fraction ++ exponent, isDecimalDigit c = true := by
    obtain ⟨c, later, rfl, hc⟩ := hwhole.exists_cons
    rw [Number.isDecimalInteger, List.cons_append, hsign.takeSign_append hc] at hdigits
    intro d hd
    simp only [Bool.and_eq_true, List.all_eq_true] at hdigits
    exact hdigits.2 d (by simp [List.mem_append.mp hd])
  have hhead := hfraction.head?_not_digit hexponent
  have hnil : fraction ++ exponent = [] := by
    cases hrest : fraction ++ exponent with
    | nil => rfl
    | cons c later =>
      rw [hrest] at hall hhead
      simp [hall c (by simp)] at hhead
  obtain ⟨rfl, rfl⟩ := List.append_eq_nil_iff.mp hnil
  cases hfraction
  cases hexponent
  exact ⟨σ * n, by simp⟩

/-- A word that denotes no integer is captured as a floating-point text. -/
lemma capture_eq_ofFloatText {word : String} (h : Denotes word.toList q)
    (hq : ¬∃ n : Int, q = n) : Number.capture word = .ofFloatText word.toList := by
  have hplain := any_eq_false_of_decimalCharacters h.mem_decimalCharacters
  have hinteger : Number.isDecimalInteger word.toList = false :=
    Bool.eq_false_iff.mpr fun hdigits => hq (h.exists_eq_intCast hdigits)
  have hmarked := readMarked?_eq_none h.mem_decimalCharacters
  rw [Number.capture]
  simp only [hplain, hinteger, hmarked, Bool.false_eq_true, if_false]

/-- The amount captured from a word that denotes no integer is the nearest floating-point number,
or the integer that this number is equal to. -/
theorem capture {word : String} (h : Denotes word.toList q) (hq : ¬∃ n : Int, q = n) :
    ∃ d : Decimal, Number.capture word = .ofBinary d.nearest ∧ d.value = q := by
  obtain ⟨d, hread, hvalue⟩ := h.binaryRead?
  refine ⟨d, ?_, hvalue⟩
  rw [h.capture_eq_ofFloatText hq, Number.ofFloatText, hread]

end Denotes

end Remittance.Numeral
