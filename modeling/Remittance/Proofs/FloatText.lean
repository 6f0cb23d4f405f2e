import Remittance.Proofs.Conversions
import Remittance.Proofs.WordRuns

/-!
# The text of floating-point numbers

`IsFloatText` is the syntax in which floating-point numbers and infinities are written: an optional
sign, and behind it either digits with at most one point among or beside them and an optional
exponent, or one of two words in any letter case, with blanks on either side.  It says nothing about
how a text is read.

`Binary64.exists_read?_iff` says that exactly these texts are read as a number or an infinity.  The
only other texts that are read at all are the words for the undefined value.
-/

namespace Remittance

/-! ## Trimmed texts -/

namespace Text

/-- What trimming takes off is at the two ends, and all of it is blank. -/
lemma exists_eq_append_trimWith (blank : Char → Bool) (cs : List Char) :
    ∃ front back, (∀ c ∈ front, blank c = true) ∧ (∀ c ∈ back, blank c = true) ∧
      cs = front ++ (trimWith blank cs ++ back) := by
  refine ⟨cs.takeWhile blank, ((cs.dropWhile blank).reverse.takeWhile blank).reverse,
    fun c hc => List.mem_takeWhile_imp hc, fun c hc => ?_, ?_⟩
  · exact List.mem_takeWhile_imp (List.mem_reverse.mp hc)
  · rw [trimWith, ← List.reverse_append, List.takeWhile_append_dropWhile, List.reverse_reverse,
      List.takeWhile_append_dropWhile]

end Text

namespace Numeral

/-! ## The syntax -/

/-- Digits with at most one point among or beside them, but not a point alone. -/
inductive IsMantissa : List Char → Prop
  | whole {digits : List Char} {n : Nat} (hdigits : IsRun digits n) : IsMantissa digits
  | pointed {front back : List Char} (hfront : ∀ c ∈ front, c ∈ digitCharacters)
    (hback : ∀ c ∈ back, c ∈ digitCharacters) (hne : front ++ back ≠ []) :
    IsMantissa (front ++ '.' :: back)

/-- The words for infinity. -/
def infinityWords : List (List Char) :=
  ["inf".toList, "infinity".toList]

/-- The text of a number, or of an infinity, without blanks. -/
inductive IsFloating : List Char → Prop
  | number {sign mantissa exponent : List Char} {σ e : Int} (hsign : IsSign sign σ)
    (hmantissa : IsMantissa mantissa) (hexponent : IsExponent exponent e) :
    IsFloating (sign ++ (mantissa ++ exponent))
  | infinity {sign word : List Char} {σ : Int} (hsign : IsSign sign σ)
    (hword : word.map Text.lowerAscii ∈ infinityWords) : IsFloating (sign ++ word)

/-- The text of a number, or of an infinity, with any blanks on either side. -/
def IsFloatText (cs : List Char) : Prop :=
  ∃ front body back, (∀ c ∈ front, Text.isAsciiBlank c = true) ∧ IsFloating body ∧
    (∀ c ∈ back, Text.isAsciiBlank c = true) ∧ cs = front ++ (body ++ back)

/-! ## Texts of the syntax are read -/

/-- A sign is read off a text that does not start with one. -/
lemma IsSign.takeSign_append_of_head {sign cs : List Char} {σ : Int} (h : IsSign sign σ)
    (hcs : ∀ c ∈ cs.head?, c ≠ '-' ∧ c ≠ '+') : takeSign (sign ++ cs) = (decide (σ < 0), cs) := by
  cases h with
  | plus => rfl
  | minus => rfl
  | absent =>
    cases cs with
    | nil => rfl
    | cons c later =>
      obtain ⟨hminus, hplus⟩ := hcs c rfl
      simp [takeSign, hminus, hplus]

namespace IsMantissa

variable {mantissa exponent : List Char} {e : Int}

/-- A mantissa starts with a digit or with the point. -/
lemma exists_cons (h : IsMantissa mantissa) :
    ∃ c later, mantissa = c :: later ∧ c ∈ '.' :: digitCharacters := by
  cases h with
  | whole hdigits =>
    obtain ⟨c, later, rfl, hc⟩ := hdigits.exists_cons
    exact ⟨c, later, rfl, List.mem_cons_of_mem _ hc⟩
  | @pointed front back hfront _ _ =>
    cases front with
    | nil => exact ⟨'.', back, rfl, List.mem_cons_self⟩
    | cons c front =>
      exact ⟨c, front ++ '.' :: back, rfl, List.mem_cons_of_mem _ (hfront c List.mem_cons_self)⟩

/-- The parts that the reader cuts a mantissa into have digits for a coefficient. -/
lemma exists_parts (h : IsMantissa mantissa) (hexponent : IsExponent exponent e) :
    ∃ whole tail fraction n, (mantissa ++ exponent).span isDecimalDigit = (whole, tail) ∧
      Decimal.takeFraction tail = (fraction, exponent) ∧
      readDigits? 10 (whole ++ fraction) = some n := by
  have hdigit : ∀ {cs : List Char}, (∀ c ∈ cs, c ∈ digitCharacters) →
      ∀ c ∈ cs, isDecimalDigit c = true := fun hcs c hc => isDecimalDigit_iff.mpr (hcs c hc)
  cases h with
  | @whole _ n hdigits =>
    refine ⟨mantissa, exponent, [], n, ?_, hexponent.takeFraction, ?_⟩
    · exact span_append (fun _ => hdigits.isDecimalDigit) hexponent.head?_not_digit
    · rw [List.append_nil, hdigits.readDigits?]
  | @pointed front back hfront hback hne =>
    obtain ⟨n, hrun⟩ := exists_isRun hne
      (List.forall_mem_append.mpr ⟨hdigit hfront, hdigit hback⟩)
    refine ⟨front, '.' :: (back ++ exponent), back, n, ?_, ?_, hrun.readDigits?⟩
    · have hpoint : isDecimalDigit '.' = false := by decide
      rw [List.append_assoc, List.cons_append]
      exact span_append (hdigit hfront) (by simp [hpoint])
    · exact span_append (hdigit hback) hexponent.head?_not_digit

lemma mem_decimalCharacters (h : IsMantissa mantissa) : ∀ c ∈ mantissa, c ∈ decimalCharacters := by
  have hdigits : ∀ {cs : List Char}, (∀ c ∈ cs, c ∈ digitCharacters) →
      ∀ c ∈ cs, c ∈ decimalCharacters := fun hcs c hc => List.mem_append_left _ (hcs c hc)
  cases h with
  | whole hrun => exact hrun.mem_decimalCharacters
  | pointed hfront hback _ =>
    refine List.forall_mem_append.mpr ⟨hdigits hfront, ?_⟩
    exact List.forall_mem_cons.mpr ⟨by decide, hdigits hback⟩

lemma takeSign_append (h : IsMantissa mantissa) {sign : List Char} {σ : Int}
    (hsign : IsSign sign σ) (exponent : List Char) :
    takeSign (sign ++ (mantissa ++ exponent)) = (decide (σ < 0), mantissa ++ exponent) := by
  apply hsign.takeSign_append_of_head
  obtain ⟨c, later, rfl, hc⟩ := h.exists_cons
  rintro _ ⟨⟩
  constructor <;> rintro rfl <;> revert hc <;> decide

lemma exists_decimalRead? (h : IsMantissa mantissa) {sign : List Char} {σ : Int}
    (hsign : IsSign sign σ) (hexponent : IsExponent exponent e) :
    ∃ d, Decimal.read? (sign ++ (mantissa ++ exponent)) = some d := by
  obtain ⟨whole, tail, fraction, n, hspan, hfraction, hdigits⟩ := h.exists_parts hexponent
  rw [Decimal.read?, h.takeSign_append hsign]
  simp only [hspan, hfraction, hdigits, hexponent.readExponent?]
  exact ⟨_, rfl⟩

end IsMantissa

lemma Decimal.nearest_ne_nan (d : Decimal) : d.nearest ≠ .nan := by
  intro h
  have hrounds := d.rounds_nearest
  rw [h] at hrounds
  cases hrounds

/-! ## Blanks and words -/

/-- A character of a word for infinity is no blank: blanks have no other case. -/
lemma not_blank_of_lowerAscii {c : Char} (h : Text.lowerAscii c ∈ "infinity".toList) :
    Text.isAsciiBlank c = false := by
  have hcode : ∀ {a b : Char}, a ≤ b ↔ a.toNat ≤ b.toNat := Iff.rfl
  have hletters : ∀ d ∈ "infinity".toList, 97 ≤ d.toNat := by simp
  by_contra hblank
  have hlow : c.toNat ≤ 32 := by
    simp only [Text.isAsciiBlank, Text.isLayoutControl, Bool.not_eq_false, Bool.or_eq_true,
      Bool.and_eq_true, beq_iff_eq, decide_eq_true_eq, hcode, Char.reduceToNat] at hblank
    rcases hblank with rfl | hrange
    · decide
    · omega
  have hself : Text.lowerAscii c = c := by
    apply if_neg
    simp only [hcode, Char.reduceToNat]
    omega
  rw [hself] at h
  have := hletters c h
  omega

/-- The characters of a number or an infinity are no blanks. -/
lemma IsFloating.not_blank {body : List Char} (h : IsFloating body) :
    ∀ c ∈ body, Text.isAsciiBlank c = false := by
  have hplain : ∀ c ∈ decimalCharacters, Text.isAsciiBlank c = false := by
    simp [decimalCharacters, digitCharacters, Text.isAsciiBlank, Text.isLayoutControl]
  cases h with
  | number hsign hmantissa hexponent =>
    simp only [List.forall_mem_append]
    exact ⟨fun c hc => hplain c (hsign.mem_decimalCharacters c hc),
      fun c hc => hplain c (hmantissa.mem_decimalCharacters c hc),
      fun c hc => hplain c (hexponent.mem_decimalCharacters c hc)⟩
  | infinity hsign hword =>
    have hletters : ∀ w ∈ infinityWords, ∀ c ∈ w, c ∈ "infinity".toList := by
      simp [infinityWords]
    refine List.forall_mem_append.mpr ⟨fun c hc => hplain c (hsign.mem_decimalCharacters c hc), ?_⟩
    intro c hc
    exact not_blank_of_lowerAscii (hletters _ hword _ (List.mem_map_of_mem hc))

namespace Binary64

lemma ofWord?_of_mem {word : List Char} (h : word.map Text.lowerAscii ∈ infinityWords)
    (negative : Bool) : ofWord? negative word = some (.infinite negative) := by
  have hor : word.map Text.lowerAscii = "inf".toList ∨
      word.map Text.lowerAscii = "infinity".toList := by
    simpa [infinityWords] using h
  simp only [ofWord?, if_pos hor]

lemma head?_of_lowerAscii {word : List Char} (h : word.map Text.lowerAscii ∈ infinityWords) :
    ∀ c ∈ word.head?, Text.lowerAscii c = 'i' := by
  have hheads : ∀ w ∈ infinityWords, w.head? = some 'i' := by simp [infinityWords]
  have hhead := hheads _ h
  rw [List.head?_map] at hhead
  intro c hc
  rw [Option.mem_def.mp hc] at hhead
  exact Option.some.inj hhead

/-- No mantissa is a word. -/
lemma ofWord?_mantissa {mantissa : List Char} (h : IsMantissa mantissa) (negative : Bool)
    (exponent : List Char) : ofWord? negative (mantissa ++ exponent) = none := by
  have hletters : ∀ c ∈ '.' :: digitCharacters,
      Text.lowerAscii c ≠ 'i' ∧ Text.lowerAscii c ≠ 'n' := by
    simp [digitCharacters, Text.lowerAscii]
  obtain ⟨c, later, rfl, hc⟩ := h.exists_cons
  obtain ⟨hi, hn⟩ := hletters c hc
  exact ofWord?_cons_eq_none hi hn negative _

lemma exists_ofText? {body : List Char} (h : IsFloating body) :
    ∃ x, ofText? body = some x ∧ x ≠ .nan := by
  cases h with
  | @number sign mantissa exponent σ e hsign hmantissa hexponent =>
    obtain ⟨d, hread⟩ := hmantissa.exists_decimalRead? hsign hexponent
    refine ⟨d.nearest, ?_, d.nearest_ne_nan⟩
    rw [ofText?, hmantissa.takeSign_append hsign]
    simp only [ofWord?_mantissa hmantissa, hread, Option.map_some]
  | @infinity sign word σ hsign hword =>
    have htake : takeSign (sign ++ word) = (decide (σ < 0), word) := by
      apply hsign.takeSign_append_of_head
      intro c hc
      have hi := head?_of_lowerAscii hword c hc
      constructor <;> rintro rfl <;> revert hi <;> decide
    refine ⟨.infinite (decide (σ < 0)), ?_, by simp⟩
    rw [ofText?, htake]
    simp only [ofWord?_of_mem hword]

end Binary64

/-! ## What is read is of the syntax -/

lemma isExponent_of_readExponent? {cs : List Char} {e : Int}
    (h : Decimal.readExponent? cs = some e) : IsExponent cs e := by
  cases cs with
  | nil =>
    obtain rfl := Option.some.inj h
    exact .absent
  | cons mark rest =>
    rw [Decimal.readExponent?] at h
    split at h
    next hmark =>
      obtain ⟨sign, digits, σ, n, hsign, hdigits, rfl, rfl⟩ := exists_of_readInteger? h
      exact .present hmark hsign hdigits
    · cases h

lemma eq_append_of_span {cs front back : List Char}
    (h : cs.span isDecimalDigit = (front, back)) :
    cs = front ++ back ∧ ∀ c ∈ front, c ∈ digitCharacters := by
  rw [List.span_eq_takeWhile_dropWhile, Prod.mk.injEq] at h
  obtain ⟨rfl, rfl⟩ := h
  refine ⟨List.takeWhile_append_dropWhile.symm, fun c hc => ?_⟩
  exact isDecimalDigit_iff.mp (List.mem_takeWhile_imp hc)

/-- The digits before a point, if there is one, and after it are a mantissa. -/
lemma exists_mantissa {cs whole tail fraction exponent : List Char}
    (hspan : cs.span isDecimalDigit = (whole, tail))
    (hfraction : Decimal.takeFraction tail = (fraction, exponent)) {n : Nat}
    (hdigits : readDigits? 10 (whole ++ fraction) = some n) :
    ∃ mantissa, IsMantissa mantissa ∧ cs = mantissa ++ exponent := by
  obtain ⟨rfl, hwhole⟩ := eq_append_of_span hspan
  have hrun := isRun_of_readDigits? hdigits
  unfold Decimal.takeFraction at hfraction
  split at hfraction
  next rest =>
    obtain ⟨rfl, hrest⟩ := eq_append_of_span hfraction
    refine ⟨whole ++ '.' :: fraction, .pointed hwhole hrest hrun.ne_nil, ?_⟩
    rw [List.append_assoc, List.cons_append]
  · obtain ⟨rfl, rfl⟩ := Prod.mk.inj hfraction
    rw [List.append_nil] at hrun
    exact ⟨whole, .whole hrun, rfl⟩

/-- A text that is read as a decimal is a number of the syntax. -/
lemma isFloating_of_decimalRead? {cs : List Char} {d : Decimal} (h : Decimal.read? cs = some d) :
    IsFloating cs := by
  obtain ⟨sign, σ, hsign, hcs⟩ := exists_isSign cs
  unfold Decimal.read? at h
  simp only [Option.bind_eq_bind, Option.bind_eq_some_iff] at h
  obtain ⟨n, hdigits, e, hexponent, _⟩ := h
  obtain ⟨mantissa, hmantissa, hunsigned⟩ := exists_mantissa rfl rfl hdigits
  rw [hcs, hunsigned]
  exact .number hsign hmantissa (isExponent_of_readExponent? hexponent)

namespace Binary64

lemma isFloating_of_ofText? {body : List Char} {x : Binary64} (h : ofText? body = some x)
    (hx : x ≠ .nan) : IsFloating body := by
  obtain ⟨sign, σ, hsign, hbody⟩ := exists_isSign body
  obtain ⟨negative, unsigned, htake⟩ : ∃ negative unsigned, takeSign body = (negative, unsigned) :=
    ⟨_, _, rfl⟩
  rw [ofText?, htake] at h
  rw [htake] at hbody
  cases hword : ofWord? negative unsigned with
  | none =>
    simp only [hword] at h
    obtain ⟨d, hread, _⟩ := Option.map_eq_some_iff.mp h
    exact isFloating_of_decimalRead? hread
  | some y =>
    simp only [hword] at h
    obtain rfl := Option.some.inj h
    simp only [ofWord?] at hword
    split at hword
    next hinfinity =>
      rw [hbody]
      exact .infinity hsign (by simpa [infinityWords] using hinfinity)
    split at hword
    · exact absurd (Option.some.inj hword).symm hx
    · cases hword

/-- A text is read as a number or an infinity if and only if it is written as one. -/
theorem exists_read?_iff {cs : List Char} :
    (∃ x, read? cs = some x ∧ x ≠ .nan) ↔ IsFloatText cs := by
  constructor
  · rintro ⟨x, hread, hx⟩
    obtain ⟨front, back, hfront, hback, hcs⟩ :=
      Text.exists_eq_append_trimWith Text.isAsciiBlank cs
    exact ⟨front, _, back, hfront, isFloating_of_ofText? hread hx, hback, hcs⟩
  · rintro ⟨front, body, back, hfront, hbody, hback, rfl⟩
    obtain ⟨x, hx, hne⟩ := exists_ofText? hbody
    refine ⟨x, ?_, hne⟩
    rw [read?, Text.trimWith_append_blank hfront hback, trimWith_eq_self hbody.not_blank, hx]

end Binary64

end Numeral

end Remittance
