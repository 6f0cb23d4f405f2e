import Remittance.Proofs.WholeMagnitude
import Remittance.Proofs.WrittenNumber

/-!
# Decimal integers of any length

An amount word that is a decimal integer is captured exactly as long as it has no more digits than
the digit limit.  Beyond the limit it is read as a floating-point number, zeros in front of it
included, and so becomes the whole number that it is rounded to.

`Number.IsExactly` says what an exact capture is.  `Number.capture_isExactly_iff` says which words
have one, and what is captured from the others.
-/

namespace Remittance.Number

open Numeral

/-- The number is the integer if that is in the range of the floating-point numbers, and otherwise
the infinity with its sign. -/
structure IsExactly (x : Number) (v : Int) : Prop where
  whole : v.natAbs ≤ Magnitude.largest → x = .whole v
  infinite : Magnitude.largest < v.natAbs → x = .binary (.infinite (decide (v < 0)))

lemma isExactly_ofInteger (v : Int) : (ofInteger v).IsExactly v := by
  constructor
  · intro h
    rw [ofInteger, if_neg (Nat.not_lt.mpr h)]
  · intro h
    rw [ofInteger, if_pos h]

section Capture

variable {sign digits : List Char} {σ : Int} {n : Nat}

/-- Too many digits are captured as the number that they are rounded to. -/
lemma exists_rounds_capture (hsign : IsSign sign σ) (hdigits : IsRun digits n)
    (hlong : digitLimit < digits.length) :
    ∃ x, Binary64.Rounds (σ * n) x ∧ capture (String.ofList (sign ++ digits)) = ofBinary x := by
  have hdenotes := Denotes.intro hsign hdigits .absent .absent
  rw [List.append_nil, List.append_nil] at hdenotes
  obtain ⟨d, hread, hvalue⟩ := hdenotes.binaryRead?
  have hrounds := d.rounds_nearest
  rw [hvalue] at hrounds
  refine ⟨d.nearest, by simpa using hrounds, ?_⟩
  rw [capture_eq_ofDecimalInteger hsign hdigits, ofDecimalInteger, takeSign_digits hsign hdigits,
    if_pos hlong, ofFloatText, hread]

lemma natAbs_signed (hsign : IsSign sign σ) (n : Nat) : (σ * n).natAbs = n := by
  cases hsign <;> simp

lemma abs_signed (hsign : IsSign sign σ) (n : Nat) : |(σ * n : ℚ)| = n := by
  cases hsign <;> simp

/-- Digits beyond the limit whose number is out of range are captured as an infinity. -/
lemma capture_of_overflow_le (hsign : IsSign sign σ) (hdigits : IsRun digits n)
    (hlong : digitLimit < digits.length) (hrange : Binary64.overflow ≤ n) :
    capture (String.ofList (sign ++ digits)) = .binary (.infinite (decide (σ * n < 0))) := by
  obtain ⟨x, hx, hcapture⟩ := exists_rounds_capture hsign hdigits hlong
  have hlarge : (Magnitude.largest : ℚ) < n := Magnitude.largest_lt_overflow.trans_le hrange
  have hpos : (0 : ℚ) < n := (Nat.cast_nonneg _).trans_lt hlarge
  have hn : 0 < n := by exact_mod_cast hpos
  have hne : (σ * n : ℚ) ≠ 0 := by
    rw [← abs_pos, abs_signed hsign]
    exact hpos
  have hinfinite : Binary64.Rounds (signFactor (decide (σ < 0)) * n)
      (.infinite (decide (σ < 0))) := Binary64.Rounds.of_overflow hpos.le hrange
  rw [hsign.signFactor_eq] at hinfinite
  have hnegative : decide (σ < 0) = decide (σ * n < 0) := by
    cases hsign <;> simp [hn]
  rw [hcapture, hx.unique hne hinfinite, hnegative]
  rfl

/-- Digits beyond the limit whose number is in range are captured as the whole number nearest to
it. -/
lemma exists_capture_of_lt_overflow (hsign : IsSign sign σ) (hdigits : IsRun digits n)
    (hlong : digitLimit < digits.length) (hrange : n < Binary64.overflow) :
    ∃ (x : Magnitude) (m : Nat), x.IsNearest n ∧ x.value = m ∧
      capture (String.ofList (sign ++ digits)) = .whole (σ * m) := by
  obtain ⟨y, hy, hcapture⟩ := exists_rounds_capture hsign hdigits hlong
  cases hy with
  | infinite _ hover => exact absurd (abs_signed hsign n ▸ hover) (not_le.mpr hrange)
  | @finite negative x hfactor _ hnearest =>
    rw [abs_signed hsign] at hfactor hnearest
    obtain ⟨m, hm⟩ := hnearest.exists_natCast
    have hvalue : signFactor negative * x.value = (σ * m : Int) := by
      push_cast
      rcases Nat.eq_zero_or_pos n with rfl | hn
      · have hzero : x.value = 0 := by
          have hzero := hnearest.value_eq_of_value (y := ⟨0, 0, by decide⟩)
            (by simp [Magnitude.value_eq])
          simpa using hzero
        rw [← hm, hzero, mul_zero, mul_zero]
      · have hne : (n : ℚ) ≠ 0 := by exact_mod_cast hn.ne'
        rw [mul_right_cancel₀ hne hfactor, hm]
    refine ⟨x, m, hnearest, hm, ?_⟩
    rw [hcapture, ofBinary, Binary64.toInt?_finite_eq_some_iff.mpr hvalue]

/-- The whole number that digits in range are rounded to is an exact capture of them if and only if
nothing was rounded. -/
lemma isExactly_nearest_iff (hsign : IsSign sign σ) {x : Magnitude} {m : Nat}
    (hnearest : x.IsNearest n) (hm : x.value = m) :
    (whole (σ * m)).IsExactly (σ * n) ↔ ∃ y : Magnitude, y.value = n := by
  constructor
  · intro h
    have hle : (σ * n).natAbs ≤ Magnitude.largest := by
      by_contra hgt
      cases h.infinite (not_le.mp hgt)
    have heq : (σ * m).natAbs = (σ * n).natAbs := by rw [Number.whole.inj (h.whole hle)]
    rw [natAbs_signed hsign, natAbs_signed hsign] at heq
    exact ⟨x, by rw [hm, heq]⟩
  · rintro ⟨y, hy⟩
    have heq : m = n := by
      have hvalue := hnearest.value_eq_of_value hy
      rw [hm] at hvalue
      exact_mod_cast hvalue
    have hle : n ≤ Magnitude.largest := by
      have hbound := y.value_le_largest
      rw [hy] at hbound
      exact_mod_cast hbound
    rw [heq]
    refine ⟨fun _ => rfl, fun hgt => ?_⟩
    rw [natAbs_signed hsign] at hgt
    exact absurd hle (not_le.mpr hgt)

/-- A decimal integer is captured exactly if it has no more digits than the limit, and from more
digits exactly if its number is a value of the format or is rounded to an infinity.  All other
decimal integers are captured as the whole number nearest to them. -/
theorem capture_isExactly_iff (hsign : IsSign sign σ) (hdigits : IsRun digits n) :
    ((capture (String.ofList (sign ++ digits))).IsExactly (σ * n) ↔
      digits.length ≤ digitLimit ∨ (∃ x : Magnitude, x.value = n) ∨ Binary64.overflow ≤ n) ∧
    (digitLimit < digits.length → n < Binary64.overflow →
      ∃ (x : Magnitude) (m : Nat), x.IsNearest n ∧ x.value = m ∧
        capture (String.ofList (sign ++ digits)) = .whole (σ * m)) := by
  refine ⟨?_, exists_capture_of_lt_overflow hsign hdigits⟩
  rcases Nat.lt_or_ge digitLimit digits.length with hlong | hshort
  · rcases le_or_gt Binary64.overflow (n : ℚ) with hover | hrange
    · refine iff_of_true ⟨fun hle => ?_, fun _ => ?_⟩ (.inr (.inr hover))
      · rw [natAbs_signed hsign] at hle
        have hlt : (Magnitude.largest : ℚ) < n := Magnitude.largest_lt_overflow.trans_le hover
        exact absurd hle (not_le.mpr (by exact_mod_cast hlt))
      · exact capture_of_overflow_le hsign hdigits hlong hover
    · obtain ⟨x, m, hnearest, hm, hcapture⟩ :=
        exists_capture_of_lt_overflow hsign hdigits hlong hrange
      rw [hcapture, isExactly_nearest_iff hsign hnearest hm]
      constructor
      · exact fun hvalue => .inr (.inl hvalue)
      · rintro (hshort | hvalue | hover)
        · exact absurd hshort (not_le.mpr hlong)
        · exact hvalue
        · exact absurd hover (not_le.mpr hrange)
  · rw [capture_append hsign hdigits hshort]
    exact iff_of_true (isExactly_ofInteger _) (.inl hshort)

end Capture

/-- The digits of a number behind as many zeros as the digit limit allows digits. -/
def filled (n : Nat) : List Char :=
  List.replicate digitLimit '0' ++ natural n

lemma isRun_filled (n : Nat) : IsRun (filled n) n :=
  (isRun_natural n).replicate_zero_append _

lemma digitLimit_lt_length_filled (n : Nat) : digitLimit < (filled n).length := by
  have hpos := List.length_pos_iff.mpr (isRun_natural n).ne_nil
  rw [filled, List.length_append, List.length_replicate]
  omega

/-- Seven behind so many zeros is captured exactly, although it is read as a floating-point number:
it is a value of the format. -/
theorem capture_isExactly_iff_seven :
    IsSign ['-'] (-1) ∧ IsRun (filled 7) 7 ∧ digitLimit < (filled 7).length ∧
      (capture (String.ofList (['-'] ++ filled 7))).IsExactly (-1 * 7) := by
  obtain ⟨x, hx⟩ := Magnitude.exists_value_eq (m := 7) (k := 0) (by decide) (by decide)
  rw [pow_zero, mul_one] at hx
  exact ⟨.minus, isRun_filled 7, digitLimit_lt_length_filled 7,
    (capture_isExactly_iff .minus (isRun_filled 7)).1.mpr (.inr (.inl ⟨x, hx⟩))⟩

/-- Two to the power of 53 and one more, behind so many zeros, is captured without the one. -/
theorem capture_filled_rounded :
    IsSign [] 1 ∧ IsRun (filled 9007199254740993) 9007199254740993 ∧
      9007199254740993 ≤ Magnitude.largest ∧
      capture (String.ofList ([] ++ filled 9007199254740993)) = .whole 9007199254740992 ∧
      ¬ (capture (String.ofList ([] ++ filled 9007199254740993))).IsExactly
        (1 * 9007199254740993) := by
  obtain ⟨x, hx, hcapture⟩ := exists_rounds_capture .absent (isRun_filled 9007199254740993)
    (digitLimit_lt_length_filled 9007199254740993)
  have hrounds := Decimal.rounds_nearest ⟨false, 9007199254740993, 0⟩
  have hvalue : Decimal.value ⟨false, 9007199254740993, 0⟩ =
      ((1 : Int) * (9007199254740993 : Nat) : ℚ) := by
    norm_num [Decimal.value, signFactor]
  rw [hvalue] at hrounds
  have hrange : 9007199254740993 ≤ Magnitude.largest := by decide +kernel
  have hwhole : capture (String.ofList ([] ++ filled 9007199254740993)) =
      .whole 9007199254740992 := by
    rw [hcapture, hx.unique (by norm_num) hrounds]
    decide +kernel
  refine ⟨.absent, isRun_filled _, hrange, hwhole, fun hexact => ?_⟩
  have hother := hexact.whole hrange
  rw [hwhole] at hother
  exact absurd hother (by decide)

end Remittance.Number
