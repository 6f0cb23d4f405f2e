import Mathlib.Data.List.TakeWhile
import Remittance.Proofs.WholeMagnitude
import Remittance.Proofs.WrittenNumber

/-!
# The text of a floating-point number

Three things happen between a floating-point number and its text: the shortest digits that read back
are searched, zeros at their end are dropped, and the layout puts the point among the rest or writes
an exponent behind them.  Only the first may change the number that is meant, and it is checked there
that this is rounded to the magnitude (`Magnitude.nearest_shortest`).  The other two keep it: dropped
zeros are a factor (`IsRun.exists_significant`), and in every layout the text denotes the digits with
the point in its place (`Layout.denotes_write`).

So the text is read as the number that it was written for (`Binary64.read?_text`).  Of the search no
more is used than that every hit reads back, and that the exact expansion, with which it ends
otherwise, does so as well.
-/

namespace Remittance.Numeral

/-! ## Parts of a run of digits -/

namespace IsRun

variable {cs : List Char} {n : Nat}

lemma unique {m : Nat} (h : IsRun cs n) (h' : IsRun cs m) : n = m :=
  Option.some.inj (h.readDigits?.symm.trans h'.readDigits?)

/-- Some of the characters of a run are a run. -/
lemma exists_of_subset (h : IsRun cs n) {ds : List Char} (hsub : ds ⊆ cs) (hne : ds ≠ []) :
    ∃ m, IsRun ds m :=
  exists_isRun hne fun _ hc => h.isDecimalDigit (hsub hc)

/-- A run that is cut in two. -/
lemma exists_append {front back : List Char} (h : IsRun (front ++ back) n) (hfront : front ≠ [])
    (hback : back ≠ []) :
    ∃ a b, IsRun front a ∧ IsRun back b ∧ n = a * 10 ^ back.length + b := by
  obtain ⟨a, ha⟩ := h.exists_of_subset (List.subset_append_left front back) hfront
  obtain ⟨b, hb⟩ := h.exists_of_subset (List.subset_append_right front back) hback
  exact ⟨a, b, ha, hb, h.unique (ha.append hb)⟩

end IsRun

lemma isRun_replicate_zero (count : Nat) : IsRun (List.replicate (count + 1) '0') 0 := by
  have hzero : IsRun [Nat.digitChar 0] 0 := isRun_of_lt_ten (by decide)
  have hrun := hzero.replicate_zero_append count
  rwa [show [Nat.digitChar 0] = List.replicate 1 '0' from rfl, List.replicate_append_replicate]
    at hrun

/-- Zeros behind a run multiply the number that it stands for. -/
lemma IsRun.append_replicate_zero {cs : List Char} {n : Nat} (h : IsRun cs n) (count : Nat) :
    IsRun (cs ++ List.replicate count '0') (n * 10 ^ count) := by
  cases count with
  | zero => simpa using h
  | succ count => simpa using h.append (isRun_replicate_zero count)

lemma exists_significant_append (digits : List Char) :
    ∃ count, digits = significant digits ++ List.replicate count '0' := by
  have hzeros : ∀ c ∈ digits.reverse.takeWhile (· == '0'), c = '0' :=
    fun c hc => by simpa using List.mem_takeWhile_imp hc
  refine ⟨(digits.reverse.takeWhile (· == '0')).length, ?_⟩
  rw [significant, ← List.reverse_replicate, ← List.eq_replicate_of_mem hzeros,
    ← List.reverse_append, List.takeWhile_append_dropWhile, List.reverse_reverse]

/-- The zeros at the end of the digits of a number are a factor of it. -/
lemma IsRun.exists_significant {cs : List Char} {n : Nat} (h : IsRun cs n) (hn : n ≠ 0) :
    ∃ m count, IsRun (significant cs) m ∧ cs.length = (significant cs).length + count ∧
      n = m * 10 ^ count := by
  obtain ⟨count, hcs⟩ := exists_significant_append cs
  have hne : significant cs ≠ [] := by
    intro hnil
    rw [hnil, List.nil_append] at hcs
    cases count with
    | zero => exact h.ne_nil hcs
    | succ count =>
      rw [hcs] at h
      exact hn (h.unique (isRun_replicate_zero count))
  have hsub : significant cs ⊆ cs := fun c hc =>
    List.mem_reverse.mp ((List.dropWhile_sublist _).subset (List.mem_reverse.mp hc))
  obtain ⟨m, hm⟩ := h.exists_of_subset hsub hne
  refine ⟨m, count, hm, ?_, ?_⟩
  · have hlength := congrArg List.length hcs
    rwa [List.length_append, List.length_replicate] at hlength
  · rw [hcs] at h
    exact h.unique (hm.append_replicate_zero count)

/-! ## The layout -/

namespace Layout

variable {sign digits : List Char} {σ : Int} {m : Nat}

/-- Digits with the point after some of them, or with none after the last. -/
lemma exists_isFraction (h : IsRun digits m) {front : Nat} (hpos : 0 < front) :
    ∃ a b j, IsRun (digits.take front) a ∧
      IsFraction (if (digits.drop front).isEmpty then [] else '.' :: digits.drop front) b j ∧
      (a + b / 10 ^ j : ℚ) = m / 10 ^ (digits.length - front) := by
  by_cases hempty : digits.drop front = []
  · have hle : digits.length ≤ front := List.drop_eq_nil_iff.mp hempty
    refine ⟨m, 0, 0, ?_, ?_, ?_⟩
    · rwa [List.take_of_length_le hle]
    · rw [hempty]
      exact .absent
    · rw [Nat.sub_eq_zero_of_le hle]
      simp
  · have hfront : digits.take front ≠ [] := by
      have hne := h.ne_nil
      simp only [ne_eq, List.take_eq_nil_iff, not_or]
      exact ⟨hpos.ne', hne⟩
    have hcut := h
    rw [← List.take_append_drop front digits] at hcut
    obtain ⟨a, b, ha, hb, hm⟩ := hcut.exists_append hfront hempty
    rw [List.length_drop] at hm
    refine ⟨a, b, digits.length - front, ha, ?_, ?_⟩
    · rw [if_neg (by simpa using hempty), ← List.length_drop]
      exact .present hb
    · rw [hm]
      push_cast
      field_simp

/-- With the point among zeros in front of the digits, among the digits, or among zeros behind them,
the text denotes the digits with the point in its place. -/
lemma denotes_positional (hsign : IsSign sign σ) (hdigits : IsRun digits m) (point : Int) :
    Denotes (sign ++ positional digits point) (σ * (m * 10 ^ (point - digits.length))) := by
  rw [positional]
  split_ifs with hfront hback
  · -- The fraction is zeros and then all the digits.
    obtain ⟨zeros, hzeros⟩ := Int.eq_ofNat_of_zero_le (show 0 ≤ -point by omega)
    obtain rfl : point = -(zeros : Int) := by omega
    have hzero : IsRun ['0'] 0 := isRun_replicate_zero 0
    have hdenotes := Denotes.intro hsign hzero
      (.present (hdigits.replicate_zero_append zeros)) .absent
    rw [List.append_nil, List.length_append, List.length_replicate, zpow_zero, mul_one,
      Nat.cast_zero, zero_add] at hdenotes
    rw [neg_neg, Int.toNat_natCast, ← neg_add', zpow_neg, ← div_eq_mul_inv, ← Nat.cast_add,
      zpow_natCast]
    exact hdenotes
  · -- Zeros fill the places up to the point, and one more is the fraction.
    obtain ⟨zeros, hzeros⟩ := Nat.exists_eq_add_of_le hback
    obtain rfl : point = (digits.length + zeros : Nat) := by omega
    have hdenotes := Denotes.intro hsign (hdigits.append_replicate_zero zeros)
      (.present (isRun_replicate_zero 0)) .absent
    rw [List.append_nil, Nat.cast_zero, zero_div, add_zero, zpow_zero, mul_one] at hdenotes
    rw [Int.toNat_natCast, Nat.add_sub_cancel_left, Nat.cast_add, add_sub_cancel_left,
      zpow_natCast]
    simpa using hdenotes
  · obtain ⟨front, rfl⟩ := Int.eq_ofNat_of_zero_le (show 0 ≤ point by omega)
    rw [Int.toNat_natCast] at hback
    obtain ⟨a, b, j, ha, hb, hvalue⟩ := exists_isFraction hdigits (show 0 < front by omega)
    have hdenotes := Denotes.intro hsign ha hb .absent
    rw [if_neg (by simpa using hback), List.append_nil, hvalue, zpow_zero, mul_one] at hdenotes
    rw [Int.toNat_natCast, ← neg_sub, zpow_neg, ← div_eq_mul_inv, ← Nat.cast_sub (by omega),
      zpow_natCast]
    exact hdenotes

/-- An exponent with its sign, and with zeros in front of its digits. -/
lemma isExponent_padded (width : Nat) (e : Int) :
    IsExponent ('e' :: (if e < 0 then '-' else '+') :: padded width e.natAbs) e := by
  have hrun := isRun_padded width e.natAbs
  split
  · have hpresent := IsExponent.present (.inl rfl) .minus hrun
    rwa [show -1 * (e.natAbs : Int) = e by omega] at hpresent
  · have hpresent := IsExponent.present (.inl rfl) .plus hrun
    rwa [show 1 * (e.natAbs : Int) = e by omega] at hpresent

/-- With one digit before the point and an exponent, the text denotes the same. -/
lemma denotes_scientific (layout : Layout) (hsign : IsSign sign σ) (hdigits : IsRun digits m)
    (point : Int) :
    Denotes (sign ++ layout.scientific digits point) (σ * (m * 10 ^ (point - digits.length))) := by
  obtain ⟨a, b, j, ha, hb, hvalue⟩ := exists_isFraction hdigits Nat.one_pos
  have hexponent := isExponent_padded layout.exponentWidth (point - 1)
  have hdenotes := Denotes.intro hsign ha hb hexponent
  have hlength : 1 ≤ digits.length := List.length_pos_iff.mpr hdigits.ne_nil
  have hpower : (σ * (a + b / 10 ^ j) * 10 ^ (point - 1) : ℚ) =
      σ * (m * 10 ^ (point - digits.length)) := by
    have hsplit : point - 1 = (point - digits.length) + (digits.length - 1 : Nat) := by omega
    rw [hvalue, hsplit, zpow_add₀ (by norm_num), zpow_natCast]
    field_simp
  rw [hpower] at hdenotes
  simpa [scientific] using hdenotes

/-- Laid-out digits denote the digits with the point in its place. -/
lemma denotes_write (layout : Layout) (hsign : IsSign sign σ) (hdigits : IsRun digits m)
    (point : Int) :
    Denotes (sign ++ layout.write digits point) (σ * (m * 10 ^ (point - digits.length))) := by
  rw [write]
  split
  · exact denotes_positional hsign hdigits point
  · exact denotes_scientific layout hsign hdigits point

end Layout

/-! ## The shortest digits -/

namespace Magnitude

variable {x : Magnitude}

lemma isNearest_value (x : Magnitude) : x.IsNearest x.value := by
  constructor
  · intro y
    rw [sub_self, abs_zero]
    exact abs_nonneg _
  · intro y hne htie
    rw [sub_self, abs_zero, abs_eq_zero, sub_eq_zero] at htie
    exact absurd (value_injective htie.symm) hne

/-- A number of the format is rounded to itself. -/
lemma rounds_value (x : Magnitude) (negative : Bool) :
    Binary64.Rounds (signFactor negative * x.value) (.finite negative x) :=
  .of_nearest x.value_nonneg (x.value_le_largest.trans_lt largest_lt_overflow) x.isNearest_value

lemma value_pos (hx : x.mantissa ≠ 0) : 0 < x.value := by
  rw [value_eq]
  exact mul_pos (by exact_mod_cast Nat.pos_of_ne_zero hx) (step_pos _)

lemma eq_zero_of_mantissa (hx : x.mantissa = 0) : x = ⟨0, 0, by decide⟩ := by
  obtain ⟨m, e, hlimit, hmost, hleast⟩ := x
  obtain rfl : m = 0 := hx
  obtain rfl : e = 0 := hleast.resolve_right (by decide)
  rfl

/-- The exact expansion. -/
lemma value_eq_decimalUnits (x : Magnitude) :
    x.value = x.decimalUnits * 10 ^ (-(unitExponent : Int)) := by
  rw [value, decimalUnits, unitsInOne_eq, Nat.pow_eq, zpow_neg, zpow_natCast]
  generalize unitExponent = k
  push_cast
  rw [show (10 : ℚ) = 2 * 5 by norm_num, mul_pow]
  field_simp

lemma readsBack_iff {coefficient : Nat} {exponent : Int} :
    x.readsBack coefficient exponent = true ↔
      Decimal.nearest ⟨false, coefficient, exponent⟩ = .finite false x := by
  rw [readsBack, beq_iff_eq]

lemma readsBack_decimalUnits (hx : x.mantissa ≠ 0) :
    x.readsBack x.decimalUnits (-unitExponent) = true := by
  have hvalue : Decimal.value ⟨false, x.decimalUnits, -unitExponent⟩ = 1 * x.value := by
    rw [Decimal.value, x.value_eq_decimalUnits, mul_assoc]
    rfl
  have hrounds := Decimal.rounds_nearest ⟨false, x.decimalUnits, -unitExponent⟩
  rw [hvalue] at hrounds
  have hne : 1 * x.value ≠ 0 := by
    rw [one_mul]
    exact (value_pos hx).ne'
  exact readsBack_iff.mpr (hrounds.unique hne (x.rounds_value false))

lemma readsBack_of_neighbour? {dropped coefficient : Nat}
    (h : x.neighbour? dropped = some coefficient) :
    x.readsBack coefficient (dropped - unitExponent) = true := by
  obtain ⟨closer, other, hchoice⟩ : ∃ closer other, x.neighbour? dropped =
      if x.readsBack closer (dropped - unitExponent) then some closer
      else if x.readsBack other (dropped - unitExponent) then some other
      else none := ⟨_, _, rfl⟩
  rw [hchoice] at h
  split at h
  next hcloser => rwa [← Option.some.inj h]
  split at h
  next hother => rwa [← Option.some.inj h]
  · cases h

/-- The shortest digits are rounded to the magnitude. -/
lemma nearest_shortest (hx : x.mantissa ≠ 0) :
    Decimal.nearest ⟨false, x.shortest.1, x.shortest.2⟩ = .finite false x := by
  apply readsBack_iff.mp
  rw [shortest]
  generalize hhit : List.findSome? _ (List.range' 1 17) = hit?
  cases hit? with
  | none => exact readsBack_decimalUnits hx
  | some hit =>
    obtain ⟨count, _, hcount⟩ := List.exists_of_findSome?_eq_some hhit
    obtain ⟨coefficient, hneighbour, rfl⟩ := Option.map_eq_some_iff.mp hcount
    exact readsBack_of_neighbour? hneighbour

lemma shortest_ne_zero (hx : x.mantissa ≠ 0) : x.shortest.1 ≠ 0 := by
  intro hzero
  have hnearest := nearest_shortest hx
  rw [hzero, Decimal.nearest, if_pos rfl, Binary64.ofQuotient_zero] at hnearest
  cases hnearest
  exact hx rfl

lemma shortest_pos (hx : x.mantissa ≠ 0) : (0 : ℚ) < x.shortest.1 * 10 ^ x.shortest.2 := by
  have hcoefficient : (0 : ℚ) < x.shortest.1 := by
    exact_mod_cast Nat.pos_of_ne_zero (shortest_ne_zero hx)
  exact mul_pos hcoefficient (zpow_pos (by norm_num) _)

/-- A positive decimal that is read as a magnitude is rounded to it with either sign. -/
lemma rounds_of_nearest {c : Nat} {e : Int} (hpos : (0 : ℚ) < c * 10 ^ e)
    (hnearest : Decimal.nearest ⟨false, c, e⟩ = .finite false x) (negative : Bool) :
    Binary64.Rounds (signFactor negative * (c * 10 ^ e)) (.finite negative x) := by
  have hvalue : Decimal.value ⟨false, c, e⟩ = c * 10 ^ e := by
    simp [Decimal.value, signFactor]
  have hrounds := Decimal.rounds_nearest ⟨false, c, e⟩
  rw [hvalue, hnearest] at hrounds
  cases hrounds with
  | finite _ hrange hnearest =>
    rw [abs_of_pos hpos] at hrange hnearest
    exact .of_nearest hpos.le hrange hnearest

/-- What the shortest digits stand for is rounded to the magnitude. -/
lemma rounds_shortest (hx : x.mantissa ≠ 0) (negative : Bool) :
    Binary64.Rounds (signFactor negative * (x.shortest.1 * 10 ^ x.shortest.2))
      (.finite negative x) :=
  rounds_of_nearest (shortest_pos hx) (nearest_shortest hx) negative

end Magnitude

/-! ## The whole text -/

/-- Zeros that are dropped behind a coefficient move into the exponent. -/
lemma shift_zeros (m count : Nat) (e : Int) :
    (m * 10 ^ (count + e) : ℚ) = (m * 10 ^ count : Nat) * 10 ^ e := by
  rw [zpow_add₀ (by norm_num), zpow_natCast]
  push_cast
  ring

/-- The text of a magnitude denotes what its shortest digits stand for. -/
lemma Magnitude.denotes_text {x : Magnitude} (hx : x.mantissa ≠ 0) {sign : List Char} {σ : Int}
    (hsign : IsSign sign σ) :
    Denotes (sign ++ x.text) (σ * (x.shortest.1 * 10 ^ x.shortest.2)) := by
  have hne := shortest_ne_zero hx
  rw [text, if_neg hx]
  generalize x.shortest = d at hne ⊢
  obtain ⟨c, e⟩ := d
  obtain ⟨m, count, hm, hlength, hcount⟩ := (isRun_natural c).exists_significant hne
  have hdenotes := Layout.standard.denotes_write hsign hm ((natural c).length + e)
  have hpoint : ((natural c).length + e - (significant (natural c)).length : Int) = count + e := by
    omega
  rw [hpoint, shift_zeros, ← hcount] at hdenotes
  exact hdenotes

namespace Binary64

lemma exists_toList_text (negative : Bool) (x : Magnitude) :
    ∃ sign σ, IsSign sign σ ∧ signFactor negative = σ ∧
      (text (.finite negative x)).toList = sign ++ x.text := by
  rw [text, String.toList_ofList]
  cases negative with
  | false => exact ⟨[], 1, .absent, by simp [signFactor], rfl⟩
  | true => exact ⟨['-'], -1, .minus, by simp [signFactor], rfl⟩

/-- The text of a number other than zero denotes a number that is rounded to it. -/
lemma exists_denotes_text {x : Magnitude} (hx : x.mantissa ≠ 0) (negative : Bool) :
    ∃ q, q ≠ 0 ∧ Denotes (text (.finite negative x)).toList q ∧
      Rounds q (.finite negative x) := by
  obtain ⟨sign, σ, hsign, hfactor, htext⟩ := exists_toList_text negative x
  have hrounds := Magnitude.rounds_shortest hx negative
  have hdenotes := Magnitude.denotes_text hx hsign
  rw [hfactor] at hrounds
  rw [← htext] at hdenotes
  refine ⟨_, mul_ne_zero ?_ (Magnitude.shortest_pos hx).ne', hdenotes, hrounds⟩
  cases hsign <;> simp

/-- Zero has one text for each sign, and the sign is read back. -/
lemma read?_text_of_zero {x : Magnitude} (hx : x.mantissa = 0) (negative : Bool) :
    read? (text (.finite negative x)).toList = some (.finite negative x) := by
  obtain rfl := Magnitude.eq_zero_of_mantissa hx
  have hdecimal : Decimal.read? (text (.finite negative ⟨0, 0, by decide⟩)).toList =
      some ⟨negative, 0, -1⟩ := by
    cases negative <;> decide
  have hread : read? (text (.finite negative ⟨0, 0, by decide⟩)).toList =
      (Decimal.read? (text (.finite negative ⟨0, 0, by decide⟩)).toList).map Decimal.nearest := by
    cases negative <;> rfl
  rw [hread, hdecimal, Option.map_some, Decimal.nearest, if_pos rfl, ofQuotient_zero]

/-- The text of a number is read as that number. -/
theorem read?_text (x : Binary64) : read? x.text.toList = some x := by
  cases x with
  | nan => decide
  | infinite negative => cases negative <;> decide
  | finite negative x =>
    by_cases hx : x.mantissa = 0
    · exact read?_text_of_zero hx negative
    · obtain ⟨q, hq, hdenotes, hrounds⟩ := exists_denotes_text hx negative
      obtain ⟨d, hread, hvalue⟩ := hdenotes.binaryRead?
      have hnearest := d.rounds_nearest
      rw [hvalue] at hnearest
      rw [hread, hnearest.unique hq hrounds]

end Binary64

end Remittance.Numeral
