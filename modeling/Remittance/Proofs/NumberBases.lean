import Remittance.Proofs.DecimalInteger

/-!
# Numbers in several bases

An amount word may give a natural number in base 16, 8 or 2 behind a mark for the base.  It is read
digit by digit and at any length, whereas the decimal text of the number is read as a floating-point
number once it is long enough.  `Number.capture_in_base` says that this makes no difference: what is
captured depends on the number only.

Two facts bring the readers together.  A digit of a base is determined by its character up to the
case of letters (`digit?_eq_some_iff`), so that every spelling of the digits has the same value.  And
a decimal text that is too long to be read exactly, but has no zeros in front, stands for a number so
large that every base makes it infinite (`Number.capture_natural`).
-/

namespace Remittance

namespace Numeral

/-! ## Digits of a base -/

lemma toNat_toLower (c : Char) :
    c.toLower.toNat = if 65 ≤ c.toNat ∧ c.toNat ≤ 90 then c.toNat + 32 else c.toNat := by
  have hcode : ∀ {a b : Char}, a.val ≤ b.val ↔ a.toNat ≤ b.toNat := Iff.rfl
  unfold Char.toLower
  simp only [ge_iff_le, hcode, Char.reduceToNat]
  split_ifs with h
  · show (c.val + 32).toNat = c.toNat + 32
    have hle : c.val.toNat ≤ 90 := h.2
    rw [UInt32.toNat_add]
    show (c.val.toNat + 32) % 2 ^ 32 = c.val.toNat + 32
    omega
  · rfl

lemma toNat_digitChar {d : Nat} (h : d < 16) :
    (Nat.digitChar d).toNat = if d < 10 then 48 + d else 87 + d := by
  interval_cases d <;> rfl

/-- A character is read as a digit if it is the character of the digit, or the capital of it. -/
lemma digit?_eq_some_iff {base d : Nat} {c : Char} (hbase : base ≤ 16) :
    digit? base c = some d ↔ d < base ∧ c.toLower = Nat.digitChar d := by
  have hcode : ∀ {a b : Char}, a ≤ b ↔ a.toNat ≤ b.toNat := Iff.rfl
  simp only [digit?, hcode, Char.reduceToNat]
  constructor
  · intro h
    have hd : d < base := by grind
    refine ⟨hd, Char.toNat_inj.mp ?_⟩
    rw [toNat_toLower, toNat_digitChar (by omega)]
    grind
  · rintro ⟨hd, h⟩
    have hcodes := congrArg Char.toNat h
    rw [toNat_toLower, toNat_digitChar (by omega)] at hcodes
    grind

/-- A run of digits of a base, with letters of either case, and the number that it stands for. -/
def IsRunIn (base : Nat) (cs : List Char) (n : Nat) : Prop :=
  ∃ digits : List Nat, digits ≠ [] ∧ (∀ d ∈ digits, d < base) ∧
    cs.map Char.toLower = digits.map Nat.digitChar ∧ n = ofDigits base digits

lemma mapM_digit?_eq_some_iff {base : Nat} (hbase : base ≤ 16) {cs : List Char}
    {digits : List Nat} :
    cs.mapM (digit? base) = some digits ↔
      (∀ d ∈ digits, d < base) ∧ cs.map Char.toLower = digits.map Nat.digitChar := by
  induction cs generalizing digits with
  | nil =>
    cases digits <;> simp
  | cons c cs ih =>
    cases digits with
    | nil => simp [List.mapM_cons, Option.bind_eq_some_iff]
    | cons d digits =>
      simp only [List.mapM_cons, Option.bind_eq_bind, Option.bind_eq_some_iff,
        digit?_eq_some_iff hbase, ih, List.forall_mem_cons, List.map_cons, List.cons.injEq]
      constructor
      · rintro ⟨d', ⟨hd, hc⟩, digits', ⟨hdigits, hcs⟩, heq⟩
        obtain ⟨rfl, rfl⟩ := List.cons.inj (Option.some.inj heq)
        exact ⟨⟨hd, hdigits⟩, hc, hcs⟩
      · rintro ⟨⟨hd, hdigits⟩, hc, hcs⟩
        exact ⟨d, ⟨hd, hc⟩, digits, ⟨hdigits, hcs⟩, rfl⟩

/-- Exactly the runs of digits are read, each as the number that it stands for. -/
lemma readDigits?_eq_some_iff {base : Nat} (hbase : base ≤ 16) {cs : List Char} {n : Nat} :
    readDigits? base cs = some n ↔ IsRunIn base cs n := by
  by_cases hnil : cs = []
  · subst hnil
    simp [readDigits?, IsRunIn, eq_comm]
  · have hread : readDigits? base cs = (cs.mapM (digit? base)).map (ofDigits base) := by
      simp [readDigits?, hnil]
    rw [hread, Option.map_eq_some_iff]
    simp only [mapM_digit?_eq_some_iff hbase, IsRunIn]
    constructor
    · rintro ⟨digits, ⟨hlt, hcs⟩, rfl⟩
      refine ⟨digits, ?_, hlt, hcs, rfl⟩
      rintro rfl
      exact hnil (List.map_eq_nil_iff.mp hcs)
    · rintro ⟨digits, _, hlt, hcs, rfl⟩
      exact ⟨digits, ⟨hlt, hcs⟩, rfl⟩

/-! ## Written numbers -/

lemma ofDigits_replicate_zero_append (base count : Nat) (digits : List Nat) :
    ofDigits base (List.replicate count 0 ++ digits) = ofDigits base digits := by
  induction count with
  | zero => rfl
  | succ count ih =>
    rw [List.replicate_succ, List.cons_append, ← ih]
    simp [ofDigits]

/-- The digits of a number are a run that stands for it, in either case of the letters and with any
number of zeros in front. -/
lemma isRunIn_of_toDigits {base n : Nat} (hbase : 1 < base) {digits : List Char}
    (hdigits : digits.map Char.toLower = Nat.toDigits base n) (zeros : Nat) :
    IsRunIn base (List.replicate zeros '0' ++ digits) n := by
  obtain ⟨values, hne, hlt, hvalues, rfl⟩ := exists_digits_toDigits hbase n
  refine ⟨List.replicate zeros 0 ++ values, by simp [hne], ?_, ?_, ?_⟩
  · intro d hd
    rcases List.mem_append.mp hd with hd | hd
    · rw [List.eq_of_mem_replicate hd]
      omega
    · exact hlt d hd
  · rw [List.map_append, List.map_append, hdigits, hvalues, List.map_replicate,
      List.map_replicate]
    rfl
  · rw [ofDigits_replicate_zero_append]

end Numeral

/-! ## Marked integers -/

namespace Number

open Numeral

/-- The marks of the bases behind a zero. -/
inductive IsMark : Nat → Char → Prop
  | hexadecimal : IsMark 16 'x'
  | hexadecimalCapital : IsMark 16 'X'
  | octal : IsMark 8 'o'
  | octalCapital : IsMark 8 'O'
  | binary : IsMark 2 'b'
  | binaryCapital : IsMark 2 'B'

/-- The word is a natural number behind the mark of its base. -/
inductive IsMarked : List Char → Nat → Prop
  | intro {base n : Nat} {mark : Char} {digits : List Char} (hmark : IsMark base mark)
    (hdigits : IsRunIn base digits n) : IsMarked ('0' :: mark :: digits) n

lemma IsMark.base_bounds {base : Nat} {mark : Char} (h : IsMark base mark) :
    1 < base ∧ base ≤ 16 := by
  cases h <;> simp

/-- Exactly the marked numbers are read as such. -/
lemma readMarked?_eq_some_iff {cs : List Char} {n : Nat} :
    readMarked? cs = some n ↔ IsMarked cs n := by
  constructor
  · intro h
    unfold readMarked? at h
    split at h
    next mark digits =>
      split_ifs at h with hx ho hb
      · have hdigits := (readDigits?_eq_some_iff (by decide)).mp h
        rcases hx with rfl | rfl
        · exact .intro .hexadecimal hdigits
        · exact .intro .hexadecimalCapital hdigits
      · have hdigits := (readDigits?_eq_some_iff (by decide)).mp h
        rcases ho with rfl | rfl
        · exact .intro .octal hdigits
        · exact .intro .octalCapital hdigits
      · have hdigits := (readDigits?_eq_some_iff (by decide)).mp h
        rcases hb with rfl | rfl
        · exact .intro .binary hdigits
        · exact .intro .binaryCapital hdigits
    · cases h
  · rintro ⟨hmark, hdigits⟩
    have hread := (readDigits?_eq_some_iff hmark.base_bounds.2).mpr hdigits
    cases hmark <;> simpa [readMarked?] using hread

namespace IsMarked

variable {cs : List Char} {n : Nat}

/-- The characters of a marked number do not keep a word from being an amount. -/
lemma any_eq_false (h : IsMarked cs n) :
    (cs.any fun c => 127 < c.toNat || c == '_') = false := by
  obtain @⟨base, n, mark, digits, hmark, values, _, hlt, hdigits, _⟩ := h
  have hdigit : ∀ c ∈ digits, c.toNat ≤ 127 ∧ ¬ c = '_' := by
    intro c hc
    have hlower : c.toLower ∈ values.map Nat.digitChar := hdigits ▸ List.mem_map_of_mem hc
    obtain ⟨d, hd, hchar⟩ := List.mem_map.mp hlower
    have hbase := hmark.base_bounds.2
    have hd := hlt d hd
    have hcodes := congrArg Char.toNat hchar
    rw [toNat_toLower, toNat_digitChar (by omega)] at hcodes
    constructor
    · grind
    · rintro rfl
      simp at hcodes
      grind
  have hmark : mark.toNat ≤ 127 ∧ ¬ mark = '_' := by
    cases hmark <;> decide
  simpa using ⟨hmark, hdigit⟩

lemma not_isDecimalInteger (h : IsMarked cs n) : isDecimalInteger cs = false := by
  obtain ⟨hmark, _⟩ := h
  have hnot : ∀ {base : Nat} {mark : Char}, IsMark base mark → isDecimalDigit mark = false := by
    rintro _ _ (_ | _) <;> decide
  simp [isDecimalInteger, takeSign, hnot hmark]

/-- A marked number is captured exactly, at any length, unless it is out of range. -/
lemma capture (h : IsMarked cs n) : Number.capture (String.ofList cs) = ofInteger n := by
  rw [Number.capture, String.toList_ofList, h.any_eq_false, h.not_isDecimalInteger,
    readMarked?_eq_some_iff.mpr h]
  simp only [Bool.false_eq_true, if_false]

end IsMarked

/-! ## Decimal text -/

/-- More digits than the limit, without zeros in front, stand for a number out of range. -/
lemma overflow_le_of_length {n : Nat} (h : digitLimit < (natural n).length) :
    Binary64.overflow ≤ n := by
  have hn : 10 ^ digitLimit ≤ n := by
    by_contra hlt
    have hle := (Nat.length_toDigits_le_iff (by decide) (by decide)).mpr (not_le.mp hlt)
    exact absurd h (not_lt.mpr hle)
  calc Binary64.overflow ≤ 2 ^ 1024 := sub_le_self _ (by positivity)
    _ ≤ 10 ^ digitLimit := two_pow_le_ten_pow (by decide)
    _ ≤ n := by exact_mod_cast hn

lemma largest_lt_of_length {n : Nat} (h : digitLimit < (natural n).length) :
    Magnitude.largest < n := by
  exact_mod_cast Magnitude.largest_lt_overflow.trans_le (overflow_le_of_length h)

/-- The decimal text of a natural number is captured exactly, at any length, unless the number is
out of range. -/
lemma capture_natural (n : Nat) : capture (String.ofList (natural n)) = ofInteger n := by
  rcases Nat.lt_or_ge digitLimit (natural n).length with hlong | hshort
  · have hover := overflow_le_of_length hlong
    have hcapture := capture_of_overflow_le .absent (isRun_natural n) hlong hover
    have hlarge : Magnitude.largest < (n : Int).natAbs := largest_lt_of_length hlong
    rw [List.nil_append, one_mul] at hcapture
    rw [hcapture, ofInteger, if_pos hlarge]
  · have hcapture := capture_append .absent (isRun_natural n) hshort
    rwa [List.nil_append, one_mul] at hcapture

/-- The decimal text of a natural number is captured as the number if it is in the range of the
floating-point numbers, and as infinity otherwise, and so are its digits in the other bases behind
the mark of the base, with letters of either case and with any zeros in front. -/
theorem capture_in_base (n : Nat) :
    (n ≤ Magnitude.largest ∧ capture (String.ofList (natural n)) = .whole n ∨
        Magnitude.largest < n ∧
          capture (String.ofList (natural n)) = .binary (.infinite false)) ∧
      ∀ {base : Nat} {mark : Char} {digits : List Char} (zeros : Nat), IsMark base mark →
        digits.map Char.toLower = Nat.toDigits base n →
        capture (String.ofList ('0' :: mark :: (List.replicate zeros '0' ++ digits))) =
          capture (String.ofList (natural n)) := by
  have hexactly := isExactly_ofInteger n
  rw [← capture_natural] at hexactly
  constructor
  · rcases Nat.lt_or_ge Magnitude.largest n with hlarge | hrange
    · refine .inr ⟨hlarge, ?_⟩
      rw [hexactly.infinite (by simpa using hlarge)]
      simp
    · exact .inl ⟨hrange, hexactly.whole (by simpa using hrange)⟩
  · intro base mark digits zeros hmark hdigits
    have hrun := isRunIn_of_toDigits hmark.base_bounds.1 hdigits zeros
    rw [(IsMarked.intro hmark hrun).capture, capture_natural]

/-- A power of sixteen times ten, in capitals. -/
lemma map_toLower_eq_toDigits (k : Nat) :
    ('A' :: List.replicate k '0').map Char.toLower = Nat.toDigits 16 (10 * 16 ^ k) := by
  have hlower : ('A' :: List.replicate k '0').map Char.toLower = 'a' :: List.replicate k '0' := by
    rw [List.map_cons, List.map_replicate]
    rfl
  rw [hlower]
  clear hlower
  induction k with
  | zero => rfl
  | succ k ih =>
    have hpos : 0 < 16 ^ k := Nat.pow_pos (by decide)
    have hlow : 16 ≤ 10 * 16 ^ (k + 1) := by omega
    have hquotient : 10 * 16 ^ (k + 1) / 16 = 10 * 16 ^ k := by omega
    have hremainder : 10 * 16 ^ (k + 1) % 16 = 0 := by omega
    rw [Nat.toDigits_of_base_le (by decide) hlow, hquotient, hremainder, ← ih,
      List.replicate_succ']
    rfl

lemma digitLimit_lt_length_of_le {k : Nat} (h : digitLimit ≤ k) :
    digitLimit < (natural (10 * 16 ^ k)).length := by
  by_contra hshort
  have hlt := (Nat.length_toDigits_le_iff (by decide) (by decide)).mp (not_lt.mp hshort)
  have hle : 10 ^ digitLimit ≤ 10 * 16 ^ k :=
    calc 10 ^ digitLimit ≤ 16 ^ digitLimit := Nat.pow_le_pow_left (by decide) _
      _ ≤ 16 ^ k := Nat.pow_le_pow_right (by decide) h
      _ ≤ 10 * 16 ^ k := Nat.le_mul_of_pos_left _ (by decide)
  exact absurd hlt (not_lt.mpr hle)

/-- A number whose decimal text is too long to be read exactly, in capitals behind a capital mark. -/
theorem capture_in_base_long :
    digitLimit < (natural (10 * 16 ^ 5000)).length ∧ IsMark 16 'X' ∧
      ('A' :: List.replicate 5000 '0').map Char.toLower = Nat.toDigits 16 (10 * 16 ^ 5000) ∧
      Magnitude.largest < 10 * 16 ^ 5000 ∧
      capture (String.ofList ('0' :: 'X' ::
        (List.replicate 2 '0' ++ 'A' :: List.replicate 5000 '0'))) =
          .binary (.infinite false) := by
  have hlong := digitLimit_lt_length_of_le (k := 5000) (by decide)
  have hlarge := largest_lt_of_length hlong
  have hdigits := map_toLower_eq_toDigits 5000
  obtain ⟨hvalue, hsame⟩ := capture_in_base (10 * 16 ^ 5000)
  obtain ⟨_, hinfinite⟩ := hvalue.resolve_left fun h => absurd h.1 (not_le.mpr hlarge)
  exact ⟨hlong, .hexadecimalCapital, hdigits, hlarge,
    (hsame 2 .hexadecimalCapital hdigits).trans hinfinite⟩

end Number

end Remittance
