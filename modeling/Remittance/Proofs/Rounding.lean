import Mathlib.Algebra.Order.Field.Power
import Mathlib.Algebra.Order.Ring.Abs
import Mathlib.Algebra.Ring.Parity
import Mathlib.Tactic.GCongr
import Mathlib.Tactic.Linarith
import Mathlib.Tactic.Positivity
import Remittance.Proofs.DecimalText

/-!
# Rounding to the nearest number

`Binary64.Rounds q x` is the rule of the 64-bit format for a rational number: from half a step above
the largest finite number on the result is infinite; below, it is the number that is nearest to `q`
among all numbers of the format, and of two equally near ones that with the even mantissa.  The
rule speaks about values only and determines the result (`Rounds.unique`).

`rounds_ofQuotient` is the correctness of the rounding of quotients, and `Decimal.rounds_nearest`
that of decimals, whose extreme exponents are decided without computing a power of ten.  Both come
down to one fact about the grid of the numbers with one exponent: where `isNearest_of_grid` applies,
rounding on the grid is rounding in the format, because the numbers with smaller exponents are all
below the part of the grid that is used.
-/

namespace Remittance.Numeral

/-! ## The rule -/

namespace Magnitude

/-- The rational number that a magnitude stands for. -/
def value (x : Magnitude) : ℚ :=
  x.units / unitsInOne

/-- No magnitude is nearer to the number, and if another one is equally near, this one is even. -/
structure IsNearest (x : Magnitude) (q : ℚ) : Prop where
  le (y : Magnitude) : |q - x.value| ≤ |q - y.value|
  even {y : Magnitude} (hne : y ≠ x) (htie : |q - y.value| = |q - x.value|) : Even x.mantissa

end Magnitude

namespace Binary64

/-- Half a step above the largest finite number. -/
def overflow : ℚ :=
  2 ^ 1024 - 2 ^ 970

/-- The number of the format that a rational number is rounded to.  Zero may have either sign. -/
inductive Rounds (q : ℚ) : Binary64 → Prop
  | finite {negative : Bool} {x : Magnitude} (hsign : q = signFactor negative * |q|)
    (hrange : |q| < overflow) (hnearest : x.IsNearest |q|) : Rounds q (.finite negative x)
  | infinite {negative : Bool} (hsign : q = signFactor negative * |q|)
    (hrange : overflow ≤ |q|) : Rounds q (.infinite negative)

end Binary64

/-! ## The grid of one exponent -/

/-- The value of the last place of a mantissa with the given exponent. -/
def step (exponent : Nat) : ℚ :=
  2 ^ exponent / unitsInOne

lemma unitsInOne_eq : unitsInOne = 2 ^ unitExponent := by
  -- The exponent is too large for the power to be evaluated on the way.
  unfold unitsInOne
  generalize unitExponent = k
  rfl

lemma unitsInOne_pos : (0 : ℚ) < unitsInOne := by
  rw [unitsInOne_eq, Nat.cast_pow]
  positivity

lemma step_pos (e : Nat) : 0 < step e :=
  div_pos (by positivity) unitsInOne_pos

lemma step_add (e k : Nat) : step (e + k) = 2 ^ k * step e := by
  rw [step, step, pow_add]
  ring

lemma step_add_unitExponent (k : Nat) : step (k + unitExponent) = 2 ^ k := by
  rw [step, unitsInOne_eq, Nat.cast_pow, Nat.cast_ofNat, pow_add, mul_div_assoc,
    div_self (by positivity), mul_one]

lemma two_mul_step_le {e f : Nat} (h : e < f) : 2 * step e ≤ step f := by
  obtain ⟨k, rfl⟩ := Nat.exists_eq_add_of_lt h
  have hone : (1 : ℚ) ≤ 2 ^ k := one_le_pow₀ (by norm_num)
  have hle := mul_le_mul_of_nonneg_right hone (step_pos e).le
  rw [add_assoc, step_add, pow_succ]
  linarith

lemma cast_mantissaLimit : (mantissaLimit : ℚ) = 2 ^ 53 := by
  norm_num [mantissaLimit]

lemma cast_mantissaLeast : (mantissaLeast : ℚ) = 2 ^ 52 := by
  norm_num [mantissaLeast]

lemma even_mantissaLeast : Even mantissaLeast := by
  decide

namespace Magnitude

lemma value_eq (x : Magnitude) : x.value = x.mantissa * step x.exponent := by
  rw [value, units, step, mul_div_assoc']
  push_cast [Nat.pow_eq]
  rfl

lemma value_nonneg (x : Magnitude) : 0 ≤ x.value :=
  div_nonneg (Nat.cast_nonneg _) unitsInOne_pos.le

lemma mantissa_lt (x : Magnitude) : (x.mantissa : ℚ) < 2 ^ 53 := by
  have h : x.mantissa < 2 ^ 53 := x.canonical.1
  exact_mod_cast h

lemma le_mantissa (x : Magnitude) (h : x.exponent ≠ 0) : (2 ^ 52 : ℚ) ≤ x.mantissa := by
  have h : 2 ^ 52 ≤ x.mantissa := x.canonical.2.2.resolve_left h
  exact_mod_cast h

lemma value_lt_of_exponent_lt {y : Magnitude} {e : Nat} (h : y.exponent < e) :
    y.value < 2 ^ 52 * step e :=
  calc y.value = y.mantissa * step y.exponent := y.value_eq
    _ < 2 ^ 53 * step y.exponent := mul_lt_mul_of_pos_right y.mantissa_lt (step_pos _)
    _ = 2 ^ 52 * (2 * step y.exponent) := by ring
    _ ≤ 2 ^ 52 * step e := by gcongr; exact two_mul_step_le h

/-- A magnitude is a point of a given grid, or has a smaller exponent and is below the points of
the grid whose mantissas have all their bits. -/
lemma on_grid_or_below (y : Magnitude) (e : Nat) :
    (∃ k : Nat, y.value = k * step e) ∨ e ≠ 0 ∧ y.value < 2 ^ 52 * step e := by
  rcases Nat.lt_or_ge y.exponent e with hlt | hle
  · exact .inr ⟨by omega, value_lt_of_exponent_lt hlt⟩
  · obtain ⟨k, hk⟩ := Nat.exists_eq_add_of_le hle
    refine .inl ⟨y.mantissa * 2 ^ k, ?_⟩
    rw [y.value_eq, hk, step_add]
    push_cast
    ring

/-- Equal magnitudes are equal values of the type. -/
lemma value_injective {x y : Magnitude} (h : x.value = y.value) : x = y := by
  have hle : ∀ {x y : Magnitude}, x.value = y.value → ¬x.exponent < y.exponent := by
    intro x y h hlt
    have hlow := mul_le_mul_of_nonneg_right (y.le_mantissa (by omega)) (step_pos y.exponent).le
    rw [← y.value_eq, ← h] at hlow
    exact absurd (value_lt_of_exponent_lt hlt) (not_lt.mpr hlow)
  have hexponent : x.exponent = y.exponent :=
    le_antisymm (not_lt.mp (hle h.symm)) (not_lt.mp (hle h))
  have hmantissa : (x.mantissa : ℚ) = y.mantissa := by
    rw [x.value_eq, y.value_eq, hexponent] at h
    exact mul_right_cancel₀ (step_pos _).ne' h
  obtain ⟨m, e, _⟩ := x
  obtain ⟨n, f, _⟩ := y
  obtain rfl : e = f := hexponent
  obtain rfl : m = n := by exact_mod_cast hmantissa
  rfl

end Magnitude

/-! ## Rounding on the grid -/

/-- Of the integers, only the one within one half is nearer than one half. -/
lemma eq_or_half_le {w : ℚ} {m : Nat} (h : |w - m| ≤ 1 / 2) (k : Nat) :
    k = m ∨ 1 / 2 ≤ |w - k| := by
  by_cases hk : k = m
  · exact .inl hk
  refine .inr ?_
  have hone : (1 : ℚ) ≤ |(k : ℚ) - m| := by
    have hint : (1 : ℤ) ≤ |(k : ℤ) - m| := Int.one_le_abs (by omega)
    exact_mod_cast hint
  have htriangle := abs_sub_le (k : ℚ) w m
  rw [abs_sub_comm (k : ℚ) w] at htriangle
  linarith

/-- Rounding to the nearest integer, with the even one at a tie. -/
lemma roundHalfEven_spec (n : Nat) {d : Nat} (hd : 0 < d) :
    |(n / d : ℚ) - roundHalfEven n d| ≤ 1 / 2 ∧
      (|(n / d : ℚ) - roundHalfEven n d| = 1 / 2 → Even (roundHalfEven n d)) := by
  have hd' : (0 : ℚ) < d := by exact_mod_cast hd
  set t : ℚ := (n % d : Nat) / d with ht
  have hsplit : (n / d : ℚ) = (n / d : Nat) + t := by
    have hmod : (d * (n / d : Nat) + (n % d : Nat) : ℚ) = n := by exact_mod_cast Nat.div_add_mod n d
    rw [ht, ← hmod]
    field_simp
  have hrange : 0 ≤ t ∧ t < 1 := by
    refine ⟨by positivity, (div_lt_one hd').mpr ?_⟩
    exact_mod_cast Nat.mod_lt n hd
  have hbelow : 2 * (n % d) < d ↔ t < 1 / 2 := by
    rw [ht, div_lt_iff₀ hd', ← Nat.cast_lt (α := ℚ)]
    push_cast
    constructor <;> intro h <;> linarith
  have habove : d < 2 * (n % d) ↔ 1 / 2 < t := by
    rw [ht, lt_div_iff₀ hd', ← Nat.cast_lt (α := ℚ)]
    push_cast
    constructor <;> intro h <;> linarith
  have hup : ∀ m : Nat, (m + t - (m + 1 : Nat) : ℚ) = t - 1 := by
    intro m
    push_cast
    ring
  rw [hsplit]
  simp only [roundHalfEven, hbelow, habove]
  split_ifs with hlow hhigh heven
  · rw [add_sub_cancel_left, abs_of_nonneg hrange.1]
    exact ⟨hlow.le, fun htie => absurd htie hlow.ne⟩
  · rw [hup, abs_of_neg (by linarith)]
    exact ⟨by linarith, fun htie => absurd htie (by linarith)⟩
  · rw [add_sub_cancel_left, abs_of_nonneg hrange.1]
    exact ⟨by linarith, fun _ => Nat.even_iff.mpr heven⟩
  · rw [hup, abs_of_neg (by linarith)]
    exact ⟨by linarith, fun _ => by rw [Nat.even_add_one, Nat.even_iff]; exact heven⟩

/-- A number of the format on the grid of one exponent is nearest if its mantissa is, provided
that no number with a smaller exponent comes near. -/
lemma isNearest_of_grid {x : Magnitude} {e m : Nat} {w : ℚ} (hx : x.value = m * step e)
    (hhalf : |w - m| ≤ 1 / 2) (heven : |w - m| = 1 / 2 → Even x.mantissa)
    (hlow : e = 0 ∨ 2 ^ 52 ≤ w) : x.IsNearest (w * step e) := by
  have hdist : ∀ k : ℚ, |w * step e - k * step e| = |w - k| * step e := by
    intro k
    rw [← sub_mul, abs_mul, abs_of_pos (step_pos e)]
  have hfar : ∀ y : Magnitude, y ≠ x → |w - m| * step e ≤ |w * step e - y.value| ∧
      (|w * step e - y.value| = |w - m| * step e → |w - m| = 1 / 2) := by
    intro y hne
    rcases y.on_grid_or_below e with ⟨k, hk⟩ | ⟨he, hbelow⟩
    · rcases eq_or_half_le hhalf k with rfl | hk'
      · exact absurd (Magnitude.value_injective (hk.trans hx.symm)) hne
      · rw [hk, hdist]
        refine ⟨mul_le_mul_of_nonneg_right (hhalf.trans hk') (step_pos e).le, fun htie => ?_⟩
        exact le_antisymm hhalf (hk'.trans (mul_right_cancel₀ (step_pos e).ne' htie).le)
    · have hw := hlow.resolve_left he
      have hclose : |w - m| ≤ w - 2 ^ 52 := by
        rcases eq_or_half_le hhalf (2 ^ 52) with hm | hm
        · rw [← hm, abs_of_nonneg] <;> push_cast <;> linarith
        · push_cast at hm
          rw [abs_of_nonneg (by linarith)] at hm
          linarith
      have hstrict : |w - m| * step e < |w * step e - y.value| := by
        refine lt_of_lt_of_le ?_ (le_abs_self _)
        have := mul_le_mul_of_nonneg_right hclose (step_pos e).le
        linarith
      exact ⟨hstrict.le, fun htie => absurd htie hstrict.ne'⟩
  have hself : |w * step e - x.value| = |w - m| * step e := by rw [hx, hdist]
  constructor
  · intro y
    rw [hself]
    by_cases hne : y = x
    · rw [hne, hself]
    · exact (hfar y hne).1
  · intro y hne htie
    exact heven ((hfar y hne).2 (htie.trans hself))

/-! ## Uniqueness -/

namespace Magnitude

/-- Above an even magnitude there is an odd one, and no other magnitude is between them. -/
lemma exists_next {x : Magnitude} (h : Even x.mantissa) :
    ∃ z : Magnitude, ¬Even z.mantissa ∧ x.value < z.value ∧
      ∀ y : Magnitude, x.value < y.value → z.value ≤ y.value := by
  obtain ⟨hlimit, hmost, hleast⟩ := x.canonical
  have hlt : x.mantissa + 1 < mantissaLimit := by
    refine lt_of_le_of_ne hlimit fun heq => ?_
    have hodd : ¬Even (mantissaLimit - 1) := by decide
    exact hodd (by rwa [← heq, Nat.add_sub_cancel])
  refine ⟨⟨x.mantissa + 1, x.exponent, hlt, hmost, hleast.imp_right (by omega)⟩, ?_, ?_, ?_⟩
  · exact fun hsucc => Nat.even_add_one.mp hsucc h
  · rw [x.value_eq, value_eq]
    exact mul_lt_mul_of_pos_right (by push_cast; linarith) (step_pos _)
  · intro y hy
    rw [value_eq]
    rcases y.on_grid_or_below x.exponent with ⟨k, hk⟩ | ⟨he, hbelow⟩
    · rw [hk, x.value_eq] at hy
      rw [hk]
      have hk' : x.mantissa < k := by exact_mod_cast lt_of_mul_lt_mul_right hy (step_pos _).le
      exact mul_le_mul_of_nonneg_right (by exact_mod_cast hk') (step_pos _).le
    · have hlow := mul_le_mul_of_nonneg_right (x.le_mantissa he) (step_pos x.exponent).le
      rw [← x.value_eq] at hlow
      linarith

/-- At most one magnitude is nearest. -/
theorem IsNearest.unique {x y : Magnitude} {q : ℚ} (hx : x.IsNearest q) (hy : y.IsNearest q) :
    x = y := by
  have hnot : ∀ {x y : Magnitude}, x.IsNearest q → y.IsNearest q → ¬x.value < y.value := by
    intro x y hx hy hlt
    have hne : y ≠ x := by
      rintro rfl
      exact lt_irrefl _ hlt
    have htie : |q - y.value| = |q - x.value| := le_antisymm (hy.le x) (hx.le y)
    obtain ⟨z, hodd, hxz, hleast⟩ := exists_next (hx.even hne htie)
    have hzy : z.value < y.value := by
      refine lt_of_le_of_ne (hleast y hlt) fun heq => hodd ?_
      rw [value_injective heq]
      exact hy.even hne.symm htie.symm
    -- The number is halfway between the two, and the one between them is nearer.
    have hhalf : q - x.value = y.value - q := by
      rcases abs_eq_abs.mp htie with h | h <;> linarith
    have hz := hx.le z
    rw [abs_of_nonneg (show 0 ≤ q - x.value by linarith)] at hz
    rcases abs_choice (q - z.value) with h | h <;> rw [h] at hz <;> linarith
  rcases lt_trichotomy x.value y.value with h | h | h
  · exact absurd h (hnot hx hy)
  · exact value_injective h
  · exact absurd h (hnot hy hx)

end Magnitude

namespace Binary64

lemma signFactor_injective {q : ℚ} (hq : q ≠ 0) {s t : Bool} (hs : q = signFactor s * |q|)
    (ht : q = signFactor t * |q|) : s = t := by
  have hne : |q| ≠ 0 := abs_ne_zero.mpr hq
  have h : signFactor s = signFactor t := mul_right_cancel₀ hne (hs.symm.trans ht)
  revert h
  cases s <;> cases t <;> norm_num [signFactor]

/-- A number other than zero is rounded to one number only. -/
theorem Rounds.unique {q : ℚ} (hq : q ≠ 0) {x y : Binary64} (hx : Rounds q x) (hy : Rounds q y) :
    x = y := by
  cases hx with
  | finite hsign hrange hnearest =>
    cases hy with
    | finite hsign' _ hnearest' =>
      rw [signFactor_injective hq hsign hsign', hnearest.unique hnearest']
    | infinite _ hrange' => exact absurd hrange' (not_le.mpr hrange)
  | infinite hsign hrange =>
    cases hy with
    | finite _ hrange' _ => exact absurd hrange (not_le.mpr hrange')
    | infinite hsign' _ => rw [signFactor_injective hq hsign hsign']

end Binary64

/-! ## Rounding quotients -/

/-- The exponent of a quotient of units leaves a mantissa of at most 53 bits before the point, and
of exactly as many unless the exponent is zero. -/
lemma exponent_bounds (n : Nat) {d e : Nat} (hd : 0 < d) (he : e = Nat.log2 (n / d) - 52) :
    (n / d : ℚ) < 2 ^ 53 * 2 ^ e ∧ (e = 0 ∨ 2 ^ 52 * 2 ^ e ≤ (n / d : ℚ)) := by
  have hd' : (0 : ℚ) < d := by exact_mod_cast hd
  rw [← pow_add, ← pow_add, div_lt_iff₀ hd', le_div_iff₀ hd']
  constructor
  · have hquotient : n / d < 2 ^ (53 + e) :=
      lt_of_lt_of_le Nat.lt_log2_self (Nat.pow_le_pow_right Nat.two_pos (by omega))
    exact_mod_cast (Nat.div_lt_iff_lt_mul hd).mp hquotient
  · rcases Nat.eq_zero_or_pos e with hzero | hpos
    · exact .inl hzero
    · have hne : n / d ≠ 0 := by
        intro h
        rw [he, h, Nat.log2_zero] at hpos
        omega
      have hquotient : 2 ^ (52 + e) ≤ n / d := by
        rw [show 52 + e = Nat.log2 (n / d) by omega]
        exact Nat.log2_self_le hne
      exact .inr (by exact_mod_cast (Nat.le_div_iff_mul_le hd).mp hquotient)

namespace Binary64

/-- The bound is half a step above the largest mantissa with the largest exponent. -/
lemma overflow_eq : overflow = (2 ^ 53 - 1 / 2) * step exponentMost := by
  have hstep : step exponentMost = 2 ^ 971 := step_add_unitExponent 971
  have hlarge : (2 ^ 1024 : ℚ) = 2 ^ 53 * 2 ^ 971 := (pow_add 2 53 971)
  have hsmall : (2 ^ 971 : ℚ) = 2 ^ 970 * 2 := pow_succ 2 970
  rw [overflow, hstep, hlarge, hsmall]
  generalize (2 ^ 970 : ℚ) = p
  ring

lemma lt_overflow {e : Nat} {w : ℚ} (he : e < exponentMost) (hw : w < 2 ^ 53) :
    w * step e < overflow := by
  have hstep := two_mul_step_le he
  have hpos := step_pos exponentMost
  rw [overflow_eq]
  nlinarith [step_pos e]

lemma overflow_le {e : Nat} {w : ℚ} (he : exponentMost < e) (hw : 2 ^ 52 ≤ w) :
    overflow ≤ w * step e := by
  have hstep := two_mul_step_le he
  have hpos := step_pos exponentMost
  rw [overflow_eq]
  nlinarith [step_pos e]

lemma abs_signFactor_mul (negative : Bool) {v : ℚ} (hv : 0 ≤ v) :
    |signFactor negative * v| = v := by
  cases negative <;> simp [signFactor, abs_of_nonneg hv]

lemma Rounds.of_nearest {negative : Bool} {x : Magnitude} {v : ℚ} (hv : 0 ≤ v)
    (hrange : v < overflow) (hnearest : x.IsNearest v) :
    Rounds (signFactor negative * v) (.finite negative x) := by
  have habs := abs_signFactor_mul negative hv
  refine .finite ?_ ?_ ?_ <;> rw [habs]
  · exact hrange
  · exact hnearest

lemma Rounds.of_overflow {negative : Bool} {v : ℚ} (hv : 0 ≤ v) (hrange : overflow ≤ v) :
    Rounds (signFactor negative * v) (.infinite negative) := by
  have habs := abs_signFactor_mul negative hv
  refine .infinite ?_ ?_ <;> rw [habs]
  exact hrange

lemma ofQuotient_eq (negative : Bool) (n d : Nat) {e m : Nat}
    (he : Nat.log2 (n * unitsInOne / d) - 52 = e)
    (hm : roundHalfEven (n * unitsInOne) (d * Nat.pow 2 e) = m) :
    ofQuotient negative n d = ofMagnitude? negative (Magnitude.ofRounded? m e) := by
  subst he hm
  rfl

/-- Rounding stays between two numbers that are integers themselves. -/
lemma mantissa_bounds {m : Nat} {w : ℚ} (hhalf : |w - m| ≤ 1 / 2) :
    (w < 2 ^ 53 → m ≤ mantissaLimit) ∧ (2 ^ 52 ≤ w → mantissaLeast ≤ m) := by
  obtain ⟨hleft, hright⟩ := abs_le.mp hhalf
  constructor
  · intro h
    have hlt : (m : ℚ) < (mantissaLimit + 1 : Nat) := by
      push_cast
      linarith [cast_mantissaLimit]
    exact Nat.lt_succ_iff.mp (by exact_mod_cast hlt)
  · intro h
    have hlt : (mantissaLeast : ℚ) < (m + 1 : Nat) := by
      push_cast
      linarith [cast_mantissaLeast]
    exact Nat.lt_succ_iff.mp (by exact_mod_cast hlt)

/-- Half a step above the largest mantissa, which is odd, the even number after it is taken. -/
lemma lt_half_above {m : Nat} {w : ℚ} (hm : m < mantissaLimit) (hhalf : |w - m| ≤ 1 / 2)
    (heven : |w - m| = 1 / 2 → Even m) : w < 2 ^ 53 - 1 / 2 := by
  obtain ⟨hleft, hright⟩ := abs_le.mp hhalf
  have hle : (m : ℚ) + 1 ≤ 2 ^ 53 := by
    rw [← cast_mantissaLimit]
    exact_mod_cast hm
  by_contra hge
  have htie : |w - m| = 1 / 2 := by
    rw [abs_of_nonneg] <;> linarith
  have hmost : m = mantissaLimit - 1 := by
    have hcast : (m : ℚ) + 1 = mantissaLimit := by
      rw [cast_mantissaLimit]
      linarith
    have hnat : m + 1 = mantissaLimit := by exact_mod_cast hcast
    omega
  exact absurd (heven htie) (by rw [hmost]; decide)

/-- A mantissa that is rounded on the grid of its exponent gives the number that the quotient rounds
to.  Only a mantissa that has become one bit longer, or an exponent at the end of the range, needs a
case of its own. -/
lemma rounds_ofMagnitude? (negative : Bool) {e m : Nat} {w : ℚ} (hw : 0 ≤ w)
    (hlow : e = 0 ∨ 2 ^ 52 ≤ w) (hhigh : w < 2 ^ 53) (hhalf : |w - m| ≤ 1 / 2)
    (heven : |w - m| = 1 / 2 → Even m) :
    Rounds (signFactor negative * (w * step e))
      (ofMagnitude? negative (Magnitude.ofRounded? m e)) := by
  have hv : 0 ≤ w * step e := mul_nonneg hw (step_pos e).le
  obtain ⟨hmost, hleast⟩ := mantissa_bounds hhalf
  by_cases hfull : m = mantissaLimit
  · rw [Magnitude.ofRounded?, if_pos hfull]
    have hm : (m : ℚ) = 2 ^ 53 := by rw [hfull, cast_mantissaLimit]
    by_cases he : e < exponentMost
    · have hcanonical : mantissaLeast < mantissaLimit ∧ e + 1 ≤ exponentMost ∧
          (e + 1 = 0 ∨ mantissaLeast ≤ mantissaLeast) := ⟨by decide, he, .inr le_rfl⟩
      rw [Magnitude.of?, dif_pos hcanonical]
      refine .of_nearest hv (lt_overflow he hhigh) (isNearest_of_grid ?_ hhalf ?_ hlow)
      · rw [Magnitude.value_eq, step_add, hm, cast_mantissaLeast]
        ring
      · exact fun _ => even_mantissaLeast
    · rw [Magnitude.of?, dif_neg (by omega)]
      refine .of_overflow hv ?_
      rcases Nat.lt_or_eq_of_le (not_lt.mp he) with hbeyond | rfl
      · exact overflow_le hbeyond (hlow.resolve_left (by omega))
      · rw [overflow_eq]
        exact mul_le_mul_of_nonneg_right (by linarith [abs_le.mp hhalf]) (step_pos _).le
  · rw [Magnitude.ofRounded?, if_neg hfull]
    by_cases he : e ≤ exponentMost
    · have hcanonical : m < mantissaLimit ∧ e ≤ exponentMost ∧ (e = 0 ∨ mantissaLeast ≤ m) :=
        ⟨lt_of_le_of_ne (hmost hhigh) hfull, he, hlow.imp_right hleast⟩
      rw [Magnitude.of?, dif_pos hcanonical]
      refine .of_nearest hv ?_ (isNearest_of_grid (Magnitude.value_eq _) hhalf heven hlow)
      rcases Nat.lt_or_eq_of_le he with hbelow | rfl
      · exact lt_overflow hbelow hhigh
      · rw [overflow_eq]
        exact mul_lt_mul_of_pos_right (lt_half_above hcanonical.1 hhalf heven) (step_pos _)
    · rw [Magnitude.of?, dif_neg (by omega)]
      exact .of_overflow hv (overflow_le (by omega) (hlow.resolve_left (by omega)))

/-- The quotient of two natural numbers is rounded to the nearest number. -/
theorem rounds_ofQuotient (negative : Bool) (n : Nat) {d : Nat} (hd : 0 < d) :
    Rounds (signFactor negative * (n / d)) (ofQuotient negative n d) := by
  have hd' : (0 : ℚ) < d := by exact_mod_cast hd
  have hunits := unitsInOne_pos
  obtain ⟨e, he⟩ : ∃ e, Nat.log2 (n * unitsInOne / d) - 52 = e := ⟨_, rfl⟩
  obtain ⟨m, hm⟩ : ∃ m, roundHalfEven (n * unitsInOne) (d * Nat.pow 2 e) = m := ⟨_, rfl⟩
  have hpow : (0 : ℚ) < 2 ^ e := by positivity
  set w : ℚ := (n * unitsInOne : Nat) / (d * Nat.pow 2 e : Nat) with hw
  have hquotient : ((n * unitsInOne : Nat) / d : ℚ) = w * 2 ^ e := by
    rw [hw, Nat.pow_eq]
    push_cast
    field_simp
  have hvalue : (n / d : ℚ) = w * step e := by
    rw [step, mul_div_assoc', ← hquotient]
    push_cast
    field_simp
  obtain ⟨hhigh, hlow⟩ := exponent_bounds (n * unitsInOne) hd he.symm
  have hsteps : 0 < d * Nat.pow 2 e := Nat.mul_pos hd (Nat.pow_pos Nat.two_pos)
  obtain ⟨hhalf, heven⟩ := roundHalfEven_spec (n * unitsInOne) hsteps
  rw [hquotient] at hhigh hlow
  rw [hm] at hhalf heven
  rw [hvalue, ofQuotient_eq negative n d he hm]
  have hnonneg : 0 ≤ w := div_nonneg (Nat.cast_nonneg _) (Nat.cast_nonneg _)
  exact rounds_ofMagnitude? negative hnonneg (hlow.imp_right (le_of_mul_le_mul_right · hpow))
    (lt_of_mul_lt_mul_right hhigh hpow.le) hhalf heven

/-! ## Rounding decimals -/

lemma ofQuotient_zero (negative : Bool) :
    ofQuotient negative 0 1 = .finite negative ⟨0, 0, by decide⟩ := by
  have hexponent : Nat.log2 (0 * unitsInOne / 1) - 52 = 0 := by simp
  have hmantissa : roundHalfEven (0 * unitsInOne) (1 * Nat.pow 2 0) = 0 := by
    rw [zero_mul]
    rfl
  rw [ofQuotient_eq negative 0 1 hexponent hmantissa]
  rfl

/-- Less than half a unit is rounded to zero. -/
lemma rounds_zero {negative : Bool} {v : ℚ} (hv : 0 ≤ v) (hsmall : v < 1 / 2 * step 0) :
    Rounds (signFactor negative * v) (ofQuotient negative 0 1) := by
  have hstep := step_pos 0
  have hw : v / step 0 < 1 / 2 := (div_lt_iff₀ hstep).mpr hsmall
  have hhalf : |v / step 0 - (0 : Nat)| < 1 / 2 := by
    rwa [Nat.cast_zero, sub_zero, abs_of_nonneg (div_nonneg hv hstep.le)]
  have hrange : v / step 0 * step 0 < overflow :=
    lt_overflow (by decide) (hw.trans (by norm_num))
  rw [ofQuotient_zero]
  rw [← div_mul_cancel₀ v hstep.ne'] at hv ⊢
  exact .of_nearest hv hrange
    (isNearest_of_grid (by rw [Magnitude.value_eq]) hhalf.le (fun _ => Even.zero) (.inl rfl))

end Binary64

lemma two_pow_le_ten_pow {R : Type} [Semiring R] [LinearOrder R] [IsStrictOrderedRing R]
    {j k : Nat} (h : j ≤ 3 * k) : (2 ^ j : R) ≤ 10 ^ k :=
  calc (2 ^ j : R) ≤ 2 ^ (3 * k) := pow_le_pow_right₀ (by norm_num) h
    _ = 8 ^ k := by rw [pow_mul]; norm_num
    _ ≤ 10 ^ k := pow_le_pow_left₀ (by norm_num) (by norm_num) k

namespace Decimal

/-- An exponent beyond 400 puts every number out of range. -/
lemma overflow_le {c : Nat} {e : Int} (hc : c ≠ 0) (he : 400 < e) :
    Binary64.overflow ≤ c * 10 ^ e := by
  have hone : (1 : ℚ) ≤ c := by exact_mod_cast Nat.pos_of_ne_zero hc
  obtain ⟨k, rfl⟩ := Int.eq_ofNat_of_zero_le (show 0 ≤ e by omega)
  rw [zpow_natCast]
  calc Binary64.overflow ≤ 2 ^ 1024 := sub_le_self _ (by positivity)
    _ ≤ 10 ^ k := two_pow_le_ten_pow (by omega)
    _ ≤ c * 10 ^ k := le_mul_of_one_le_left (by positivity) hone

/-- An exponent below the bits of the coefficient by 400 leaves less than half a unit. -/
lemma lt_half_unit {c : Nat} {e : Int} (he : e < -(400 + Nat.log2 c : Int)) :
    (c * 10 ^ e : ℚ) < 1 / 2 * step 0 := by
  have hc : (c : ℚ) < 2 ^ (Nat.log2 c + 1) := by exact_mod_cast Nat.lt_log2_self
  obtain ⟨k, hk⟩ := Int.eq_ofNat_of_zero_le (show 0 ≤ -e by omega)
  obtain rfl : e = -(k : Int) := by omega
  have hpow : (2 ^ (Nat.log2 c + 1) * 2 ^ (unitExponent + 1) : ℚ) ≤ 10 ^ k := by
    rw [← pow_add]
    exact two_pow_le_ten_pow (by rw [unitExponent]; omega)
  have hunit : (1 / 2 * step 0 : ℚ) * 2 ^ (unitExponent + 1) = 1 := by
    have h := step_add_unitExponent 0
    rw [step_add, pow_zero] at h
    rw [pow_succ]
    linarith
  rw [zpow_neg, zpow_natCast, ← div_eq_mul_inv, div_lt_iff₀ (by positivity)]
  have hstep := step_pos 0
  calc (c : ℚ) < 2 ^ (Nat.log2 c + 1) := hc
    _ = 1 / 2 * step 0 * (2 ^ (Nat.log2 c + 1) * 2 ^ (unitExponent + 1)) := by
      rw [mul_left_comm, hunit, mul_one]
    _ ≤ 1 / 2 * step 0 * 10 ^ k := mul_le_mul_of_nonneg_left hpow (by linarith)

/-- A decimal is read as the number that its value is rounded to. -/
theorem rounds_nearest (d : Decimal) : Binary64.Rounds d.value d.nearest := by
  have hvalue : d.value = signFactor d.negative * (d.coefficient * 10 ^ d.exponent) :=
    mul_assoc _ _ _
  have hnonneg : (0 : ℚ) ≤ d.coefficient * 10 ^ d.exponent := by positivity
  rw [hvalue, nearest]
  split_ifs with hzero hlarge hsmall hwhole
  · simpa [hzero] using Binary64.rounds_ofQuotient d.negative 0 Nat.one_pos
  · exact .of_overflow hnonneg (overflow_le hzero hlarge)
  · exact Binary64.rounds_zero hnonneg (lt_half_unit hsmall)
  · have hpow : (10 : ℚ) ^ d.exponent = (10 : ℚ) ^ d.exponent.toNat := by
      rw [← zpow_natCast, Int.toNat_of_nonneg hwhole]
    have h := Binary64.rounds_ofQuotient d.negative (d.coefficient * Nat.pow 10 d.exponent.toNat)
      Nat.one_pos
    rw [Nat.pow_eq] at h
    push_cast at h
    rwa [div_one, ← hpow] at h
  · have hpow : (10 : ℚ) ^ d.exponent = ((10 : ℚ) ^ (-d.exponent).toNat)⁻¹ := by
      rw [← zpow_natCast, Int.toNat_of_nonneg (by omega), zpow_neg, inv_inv]
    have hpos : 0 < Nat.pow 10 (-d.exponent).toNat := Nat.pow_pos (by decide)
    have h := Binary64.rounds_ofQuotient d.negative d.coefficient hpos
    rw [Nat.pow_eq] at h
    push_cast at h
    rwa [div_eq_mul_inv, ← hpow] at h

end Decimal

/-! ## Integers among the results -/

namespace Binary64

/-- The number is rounded to an integer. -/
def RoundsToInt (q : ℚ) (n : Int) : Prop :=
  ∃ negative x, Rounds q (.finite negative x) ∧ signFactor negative * x.value = n

lemma toInt?_finite_eq_some_iff {negative : Bool} {x : Magnitude} {n : Int} :
    (Binary64.finite negative x).toInt? = some n ↔ signFactor negative * x.value = n := by
  have hvalue : ∀ m : Nat, x.value = m ↔ x.units = m * unitsInOne := by
    intro m
    rw [Magnitude.value, div_eq_iff unitsInOne_pos.ne']
    exact_mod_cast Iff.rfl
  by_cases hwhole : x.units % unitsInOne = 0
  · have hsize : x.value = (x.units / unitsInOne : Nat) :=
      (hvalue _).mpr (Nat.div_mul_cancel (Nat.dvd_of_mod_eq_zero hwhole)).symm
    rw [toInt?, if_pos hwhole, hsize]
    generalize x.units / unitsInOne = size
    rw [Option.some_inj, ← @Int.cast_inj ℚ]
    cases negative <;> simp [signFactor]
  · rw [toInt?, if_neg hwhole]
    refine iff_of_false (Option.some_ne_none n).symm fun hn => hwhole ?_
    have hsize : x.value = n.natAbs := by
      rw [Nat.cast_natAbs, Int.cast_abs, ← hn, abs_signFactor_mul negative x.value_nonneg]
    rw [(hvalue _).mp hsize, Nat.mul_mod_left]

lemma toInt?_finite_eq_none_iff {negative : Bool} {x : Magnitude} :
    (Binary64.finite negative x).toInt? = none ↔ ¬∃ n : Int, signFactor negative * x.value = n := by
  simp only [Option.eq_none_iff_forall_ne_some, ne_eq, toInt?_finite_eq_some_iff, not_exists]

/-- The integer read off the result of rounding is the one that the number is rounded to. -/
lemma Rounds.toInt?_eq_some_iff {q : ℚ} (hq : q ≠ 0) {x : Binary64} (h : Rounds q x) {n : Int} :
    x.toInt? = some n ↔ RoundsToInt q n := by
  constructor
  · intro hn
    cases h with
    | @finite negative x hsign hrange hnearest =>
      exact ⟨negative, x, .finite hsign hrange hnearest, toInt?_finite_eq_some_iff.mp hn⟩
    | infinite _ _ => cases hn
  · rintro ⟨negative, y, hy, hn⟩
    rw [h.unique hq hy]
    exact toInt?_finite_eq_some_iff.mpr hn

end Binary64

end Remittance.Numeral
