import Remittance.Proofs.Conversions

/-!
# Whole numbers of the format

A natural number of at most 53 bits, shifted to the left within the range of the exponents, is the
value of a magnitude (`Magnitude.exists_value_eq`).

Rounding does not lead away from the natural numbers (`Magnitude.IsNearest.exists_natCast`).  Below
two to the power of 53 all of them are values, so that nothing is rounded; above, the last place of
a mantissa stands for a natural number itself.
-/

namespace Remittance.Numeral.Magnitude

lemma exists_value_eq {m k : Nat} (hm : m < 2 ^ 53) (hk : k ≤ 971) :
    ∃ x : Magnitude, x.value = m * 2 ^ k := by
  rcases Nat.eq_zero_or_pos m with rfl | hpos
  · exact ⟨⟨0, 0, by decide⟩, by rw [value_eq]; simp⟩
  have hbits : Nat.log2 m < 53 := (Nat.log2_lt hpos.ne').mpr hm
  obtain ⟨free, hfree⟩ : ∃ free, Nat.log2 m + free = 52 := ⟨52 - Nat.log2 m, by omega⟩
  -- As many places as the mantissa has left move into it from the power of two.
  have hlow : 2 ^ 52 ≤ m * 2 ^ free := by
    rw [← hfree, Nat.pow_add]
    exact Nat.mul_le_mul_right _ (Nat.log2_self_le hpos.ne')
  have hhigh : m * 2 ^ free < 2 ^ 53 := by
    rw [show 53 = (Nat.log2 m + 1) + free by omega, Nat.pow_add]
    exact Nat.mul_lt_mul_of_pos_right Nat.lt_log2_self (Nat.two_pow_pos free)
  have hmost : k + unitExponent - free ≤ exponentMost := by
    rw [unitExponent, exponentMost]
    omega
  have hplaces : k + unitExponent - free + free = k + unitExponent := by
    rw [unitExponent]
    omega
  refine ⟨⟨m * 2 ^ free, k + unitExponent - free, hhigh, hmost, .inr hlow⟩, ?_⟩
  calc value _ = (m * 2 ^ free : Nat) * step (k + unitExponent - free) := value_eq _
    _ = m * step (k + unitExponent - free + free) := by
      rw [step_add]
      push_cast
      ring
    _ = m * 2 ^ k := by rw [hplaces, step_add_unitExponent]

lemma largest_lt_overflow : (largest : ℚ) < Binary64.overflow := by
  have hlimit : ((mantissaLimit - 1 : Nat) : ℚ) < 2 ^ 53 - 1 / 2 := by
    norm_num [mantissaLimit]
  have hstep : step exponentMost = 2 ^ 971 := step_add_unitExponent 971
  rw [Binary64.overflow_eq, hstep, largest_eq, Nat.cast_mul, Nat.cast_pow, Nat.cast_ofNat]
  exact mul_lt_mul_of_pos_right hlimit (by positivity)

namespace IsNearest

variable {x : Magnitude}

/-- A number that is a value is rounded to itself. -/
lemma value_eq_of_value {y : Magnitude} {q : ℚ} (h : x.IsNearest q) (hy : y.value = q) :
    x.value = q := by
  have hle := h.le y
  rw [hy, sub_self, abs_zero] at hle
  linarith [abs_nonpos_iff.mp hle]

/-- A magnitude that is nearest to a number of more than 53 bits has no places after the point. -/
lemma unitExponent_le {n : Nat} (h : x.IsNearest n) (hn : 2 ^ 53 ≤ n) :
    unitExponent ≤ x.exponent := by
  by_contra hlt
  have hn' : (2 ^ 53 : ℚ) ≤ n := by exact_mod_cast hn
  have hbelow := value_lt_of_exponent_lt (not_le.mp hlt)
  have hone : step unitExponent = 1 := by simpa using step_add_unitExponent 0
  obtain ⟨y, hy⟩ := exists_value_eq (m := 1) (k := 53) (by decide) (by decide)
  rw [Nat.cast_one, one_mul] at hy
  have hle := h.le y
  rw [hone] at hbelow
  rw [hy, abs_of_nonneg (by linarith), abs_of_nonneg (by linarith)] at hle
  linarith

lemma exists_natCast {n : Nat} (h : x.IsNearest n) : ∃ m : Nat, x.value = m := by
  rcases Nat.lt_or_ge n (2 ^ 53) with hn | hn
  · obtain ⟨y, hy⟩ := exists_value_eq hn (Nat.zero_le 971)
    rw [pow_zero, mul_one] at hy
    exact ⟨n, h.value_eq_of_value hy⟩
  · obtain ⟨k, hk⟩ := Nat.exists_eq_add_of_le' (h.unitExponent_le hn)
    refine ⟨x.mantissa * 2 ^ k, ?_⟩
    rw [x.value_eq, hk, step_add_unitExponent]
    push_cast
    rfl

end IsNearest

end Remittance.Numeral.Magnitude
