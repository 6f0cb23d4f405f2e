import Mathlib.Tactic.Common
import Remittance.Text.Upper

/-!
# Upper case is a normal form

A text in upper case is its own upper-case form.  The reason is a property of the tables: no code
point that a mapping leads to (`formCodes`) is itself mapped (`mappedCodes`).  `upper_upper` lifts
this from code points to texts.

Both sets have about fifteen hundred members.  They are compared as bit masks, so that the check is
one intersection of two numbers and not a search of the tables for every member.
-/

namespace Remittance.Text

/-! ## The mapped code points and their forms -/

/-- The code points of a run. -/
def UpperRun.codes (run : UpperRun) : List Nat :=
  (List.range run.size).map fun k => run.first + k * run.stride

/-- The code points that the members of a run become. -/
def UpperRun.forms (run : UpperRun) : List Nat :=
  (List.range run.size).map fun k => run.target + k * run.stride

/-- The code points that upper-casing changes. -/
def mappedCodes : List Nat :=
  (List.range 26).map (97 + ·) ++ upperRuns.flatMap UpperRun.codes ++ upperExpansions.map (·.1)

/-- The code points that changed ones become. -/
def formCodes : List Nat :=
  (List.range 26).map (65 + ·) ++ upperRuns.flatMap UpperRun.forms ++
    upperExpansions.flatMap (·.2)

/-- The number whose binary digits mark the members of a list. -/
def mask : List Nat → Nat
  | [] => 0
  | x :: xs => 1 <<< x ||| mask xs

lemma testBit_mask (x : Nat) (xs : List Nat) : (mask xs).testBit x = true ↔ x ∈ xs := by
  induction xs with
  | nil => simp [mask]
  | cons y ys ih =>
    rw [mask, Nat.testBit_or, Bool.or_eq_true, ih, List.mem_cons, Nat.one_shiftLeft,
      Nat.testBit_two_pow]
    simp [eq_comm]

/-- Lists whose masks do not meet have no common members. -/
lemma notMem_of_mask {xs ys : List Nat} (hmasks : mask xs &&& mask ys = 0) {x : Nat}
    (h : x ∈ ys) : x ∉ xs := by
  intro hx
  have hbit : (mask xs &&& mask ys).testBit x = true := by
    rw [Nat.testBit_and, (testBit_mask x _).mpr hx, (testBit_mask x _).mpr h]
    rfl
  rw [hmasks, Nat.zero_testBit] at hbit
  exact Bool.noConfusion hbit

/-- No form of a code point is changed by upper-casing. -/
lemma notMem_mappedCodes {code : Nat} (h : code ∈ formCodes) : code ∉ mappedCodes :=
  notMem_of_mask (by decide +kernel) h

/-! ## Code points -/

/-- A code point of a run is so many steps away from its start. -/
lemma UpperRun.exists_step {run : UpperRun} {code : Nat} (h : run.contains code = true) :
    ∃ k < run.size, code = run.first + k * run.stride := by
  simp only [UpperRun.contains, Bool.and_eq_true, decide_eq_true_eq, beq_iff_eq] at h
  obtain ⟨⟨hfirst, hlast⟩, hstride⟩ := h
  have hsteps : (code - run.first) / run.stride * run.stride = code - run.first :=
    Nat.div_mul_cancel (Nat.dvd_of_mod_eq_zero hstride)
  refine ⟨(code - run.first) / run.stride, ?_, by omega⟩
  by_contra hge
  have hle : run.size * run.stride ≤ (code - run.first) / run.stride * run.stride :=
    Nat.mul_le_mul_right _ (Nat.le_of_not_lt hge)
  omega

lemma upperCode_of_notMem {code : Nat} (h : code ∉ mappedCodes) : upperCode code = [code] := by
  simp only [mappedCodes, List.mem_append, List.mem_flatMap, List.mem_map, not_or] at h
  obtain ⟨⟨hascii, hruns⟩, hexpansions⟩ := h
  rw [upperCode]
  split
  · rw [if_neg]
    intro hletter
    simp only [Bool.and_eq_true, decide_eq_true_eq] at hletter
    exact hascii ⟨code - 97, List.mem_range.mpr (by omega), by omega⟩
  · split
    · next run hrun =>
      have hcontains : run.contains code = true := by simpa using List.find?_some hrun
      obtain ⟨k, hk, hcode⟩ := UpperRun.exists_step hcontains
      exact absurd ⟨run, List.mem_of_find?_eq_some hrun,
        List.mem_map.mpr ⟨k, List.mem_range.mpr hk, hcode.symm⟩⟩ hruns
    · split
      · next item form hitem =>
        have hkey : item = code := by simpa using List.find?_some hitem
        exact absurd ⟨_, List.mem_of_find?_eq_some hitem, hkey⟩ hexpansions
      · rfl

/-- A code point becomes one form, the form of its expansion, or stays. -/
lemma upperCode_cases (code : Nat) :
    (∃ x ∈ formCodes, upperCode code = [x]) ∨
      (∃ item ∈ upperExpansions, upperCode code = item.2) ∨ upperCode code = [code] := by
  simp only [formCodes, List.mem_append, List.mem_flatMap, List.mem_map]
  rw [upperCode]
  split
  · split
    · next hletter =>
      simp only [Bool.and_eq_true, decide_eq_true_eq] at hletter
      exact .inl ⟨_, .inl (.inl ⟨code - 97, List.mem_range.mpr (by omega), by omega⟩), rfl⟩
    · exact .inr (.inr rfl)
  · split
    · next run hrun =>
      have hcontains : run.contains code = true := by simpa using List.find?_some hrun
      obtain ⟨k, hk, hcode⟩ := UpperRun.exists_step hcontains
      refine .inl ⟨_, .inl (.inr ⟨run, List.mem_of_find?_eq_some hrun, ?_⟩), rfl⟩
      exact List.mem_map.mpr ⟨k, List.mem_range.mpr hk, by omega⟩
    · split
      · next item form hitem =>
        exact .inr (.inl ⟨_, List.mem_of_find?_eq_some hitem, rfl⟩)
      · exact .inr (.inr rfl)

/-- A member of an upper-case form is a form, or it is the code point itself, left alone. -/
lemma mem_upperCode {code x : Nat} (h : x ∈ upperCode code) :
    x ∈ formCodes ∨ upperCode code = [code] := by
  rcases upperCode_cases code with ⟨y, hy, hcode⟩ | ⟨item, hitem, hcode⟩ | hself
  · rw [hcode, List.mem_singleton] at h
    exact .inl (h ▸ hy)
  · rw [hcode] at h
    exact .inl (List.mem_append_right _ (List.mem_flatMap.mpr ⟨item, hitem, h⟩))
  · exact .inr hself

/-- Upper-casing leaves every code point of an upper-case form alone. -/
theorem upperCode_of_mem {code x : Nat} (h : x ∈ upperCode code) : upperCode x = [x] := by
  rcases mem_upperCode h with hform | hself
  · exact upperCode_of_notMem (notMem_mappedCodes hform)
  · rw [hself] at h
    rw [List.mem_singleton.mp h, hself]

/-! ## Characters and texts -/

/-- A number is the code point of the character that it stands for, unless it is no code point and
stands for the zero character. -/
lemma toNat_ofNat_or (code : Nat) : (Char.ofNat code).toNat = code ∨ Char.ofNat code = '\x00' := by
  by_cases hvalid : code.isValidChar
  · left
    rw [Char.ofNat, dif_pos hvalid]
    rfl
  · right
    rw [Char.ofNat, dif_neg hvalid]
    rfl

lemma upperChar_of_mem {c d : Char} (h : d ∈ upperChar c) : upperChar d = [d] := by
  obtain ⟨code, hcode, rfl⟩ := List.mem_map.mp h
  rcases toNat_ofNat_or code with hback | hzero
  · rw [upperChar, hback, upperCode_of_mem hcode, List.map_singleton]
  · rw [hzero]
    decide

lemma flatMap_upperChar {cs : List Char} (h : ∀ c ∈ cs, upperChar c = [c]) :
    cs.flatMap upperChar = cs := by
  induction cs with
  | nil => rfl
  | cons c cs ih =>
    rw [List.flatMap_cons, h c List.mem_cons_self,
      ih fun d hd => h d (List.mem_cons_of_mem c hd), List.singleton_append]

/-- Upper-casing a text twice is upper-casing it once. -/
@[simp] theorem upper_upper (s : String) : upper (upper s) = upper s := by
  have hfixed : ∀ d ∈ s.toList.flatMap upperChar, upperChar d = [d] := by
    intro d hd
    obtain ⟨c, _, hdc⟩ := List.mem_flatMap.mp hd
    exact upperChar_of_mem hdc
  rw [upper, upper, String.toList_ofList, flatMap_upperChar hfixed]

end Remittance.Text
