import Remittance.Proofs.DaySpelling

/-!
# The rules of the calendar

`IsCalendarDay` are the rules of the Gregorian calendar, one by one and without a table of months:
which months are short, and which Februaries have a last day more.  `exists_isOn_iff` says that the
days are those that meet the rules, up to the year 9999.

`IsDigitDate` is a text of four, two and two ASCII digits.  Every day of the calendar is accepted
from its text of that kind, and a text without a plus sign is accepted only as such a text of such a
day (`screenDate_calendar`).  A minus sign needs no assumption: it may be anywhere in the text, and
no field that starts with one is read as a positive number.
-/

namespace Remittance

open Numeral

/-! ## Calendar days -/

/-- There is a day with these numbers in the Gregorian calendar. -/
structure IsCalendarDay (year month day : Nat) : Prop where
  one_le_year : 1 ≤ year
  one_le_month : 1 ≤ month
  month_le : month ≤ 12
  one_le_day : 1 ≤ day
  day_le : day ≤ 31
  /-- April, June, September and November have thirty days, -/
  short : month ∈ [4, 6, 9, 11] → day ≤ 30
  /-- and February has twenty-nine, -/
  february : month = 2 → day ≤ 29
  /-- the last of them in every fourth year, and of the full centuries in every fourth one. -/
  leap : month = 2 → day = 29 → 4 ∣ year ∧ (100 ∣ year → 400 ∣ year)

lemma isLeapYear_iff {year : Nat} :
    isLeapYear year = true ↔ 4 ∣ year ∧ (100 ∣ year → 400 ∣ year) := by
  simp only [isLeapYear, Bool.and_eq_true, Bool.or_eq_true, beq_iff_eq, bne_iff_ne,
    Nat.dvd_iff_mod_eq_zero]
  tauto

/-- Only twelve numbers are months. -/
lemma month_le_of_daysInMonth {year month day : Nat} (hday : 1 ≤ day)
    (h : day ≤ daysInMonth year month) : 1 ≤ month ∧ month ≤ 12 := by
  unfold daysInMonth at h
  split at h <;> omega

/-- The length of a month by the rules. -/
lemma le_daysInMonth_iff {year month day : Nat} (hfirst : 1 ≤ month) (hlast : month ≤ 12) :
    day ≤ daysInMonth year month ↔
      day ≤ 31 ∧ (month ∈ [4, 6, 9, 11] → day ≤ 30) ∧ (month = 2 → day ≤ 29) ∧
        (month = 2 → day = 29 → isLeapYear year = true) := by
  by_cases hmonth : month = 2
  · subst hmonth
    cases hleap : isLeapYear year <;> simp [daysInMonth, hleap] <;> omega
  · interval_cases month <;> simp [daysInMonth] <;> omega

/-- The table of months keeps the rules. -/
lemma isCalendarDay_iff {year month day : Nat} :
    IsCalendarDay year month day ↔ 1 ≤ year ∧ 1 ≤ day ∧ day ≤ daysInMonth year month := by
  constructor
  · rintro ⟨hyear, hfirst, hlast, hday, hlong, hshort, hfebruary, hleap⟩
    rw [← isLeapYear_iff] at hleap
    exact ⟨hyear, hday, (le_daysInMonth_iff hfirst hlast).mpr ⟨hlong, hshort, hfebruary, hleap⟩⟩
  · rintro ⟨hyear, hday, h⟩
    obtain ⟨hfirst, hlast⟩ := month_le_of_daysInMonth hday h
    obtain ⟨hlong, hshort, hfebruary, hleap⟩ := (le_daysInMonth_iff hfirst hlast).mp h
    rw [isLeapYear_iff] at hleap
    exact ⟨hyear, hfirst, hlast, hday, hlong, hshort, hfebruary, hleap⟩

namespace Day

/-- The day is the one with these numbers. -/
def IsOn (d : Day) (year month day : Nat) : Prop :=
  d.year = year ∧ d.month = month ∧ d.day = day

/-- There is a day for every day of the calendar up to the last year, and for nothing else. -/
lemma exists_isOn_iff {year month day : Nat} :
    (∃ d : Day, d.IsOn year month day) ↔ IsCalendarDay year month day ∧ year ≤ 9999 := by
  rw [isCalendarDay_iff]
  constructor
  · rintro ⟨d, rfl, rfl, rfl⟩
    obtain ⟨hyear, hlast, hday⟩ := d.exists_day
    exact ⟨⟨hyear, hday⟩, hlast⟩
  · rintro ⟨⟨hyear, hday⟩, hlast⟩
    exact ⟨⟨year, month, day, hyear, hlast, hday⟩, rfl, rfl, rfl⟩

end Day

/-! ## Texts of digits -/

/-- The characters are so many ASCII digits, which stand for the number. -/
def IsDigits (width n : Nat) (cs : List Char) : Prop :=
  cs.length = width ∧ IsRun cs n

/-- The text is four, two and two ASCII digits between dashes, which stand for the numbers. -/
def IsDigitDate (text : String) (year month day : Nat) : Prop :=
  ∃ y m d, IsDigits 4 year y ∧ IsDigits 2 month m ∧ IsDigits 2 day d ∧
    text.toList = y ++ '-' :: m ++ '-' :: d

lemma isDigits_padded {width n : Nat} (hwidth : 0 < width) (h : n < 10 ^ width) :
    IsDigits width n (padded width n) :=
  ⟨length_padded hwidth h, isRun_padded width n⟩

/-- The written form of a day is its text of digits. -/
lemma Day.isDigitDate_iso (d : Day) : IsDigitDate d.iso d.year d.month d.day := by
  have hyear : d.year < 10 ^ 4 := Nat.lt_succ_of_le d.exists_day.2.1
  have hmonth : d.month < 10 ^ 2 := Nat.lt_of_le_of_lt d.month_le (by decide)
  have hday : d.day < 10 ^ 2 := Nat.lt_of_le_of_lt d.day_le (by decide)
  exact ⟨_, _, _, isDigits_padded (by decide) hyear, isDigits_padded (by decide) hmonth,
    isDigits_padded (by decide) hday, String.toList_ofList⟩

lemma IsDigits.isField {width n : Nat} {cs : List Char} (h : IsDigits width n cs) :
    Day.IsField width n cs := by
  obtain ⟨rfl, hrun⟩ := h
  have hfield := Day.IsField.digits hrun.lt_pow_length
  rwa [← hrun.eq_padded] at hfield

/-- Without a plus sign a spelling of a day is its text of digits. -/
lemma Day.isSpelled_iff_isDigitDate {d : Day} {text : String} (hplus : '+' ∉ text.toList) :
    d.IsSpelled text ↔ IsDigitDate text d.year d.month d.day := by
  constructor
  · intro h
    rw [← h.iso_eq_iff.mpr hplus]
    exact d.isDigitDate_iso
  · rintro ⟨y, m, r, hy, hm, hr, htext⟩
    exact ⟨y, m, r, hy.isField, hm.isField, hr.isField, htext⟩

lemma IsDigitDate.year_le {text : String} {year month day : Nat}
    (h : IsDigitDate text year month day) : year ≤ 9999 := by
  obtain ⟨y, _, _, ⟨hlength, hrun⟩, _⟩ := h
  have hlt := hrun.lt_pow_length
  rw [hlength] at hlt
  exact Nat.le_of_lt_succ hlt

/-- A text without a plus sign spells a day exactly if it is the digits of a calendar day. -/
lemma exists_isSpelled_iff {text : String} (hplus : '+' ∉ text.toList) :
    (∃ d : Day, d.IsSpelled text) ↔
      ∃ year month day, IsCalendarDay year month day ∧ IsDigitDate text year month day := by
  constructor
  · rintro ⟨d, hspelled⟩
    obtain ⟨hday, _⟩ := Day.exists_isOn_iff.mp ⟨d, rfl, rfl, rfl⟩
    exact ⟨_, _, _, hday, (Day.isSpelled_iff_isDigitDate hplus).mp hspelled⟩
  · rintro ⟨year, month, day, hday, hdigits⟩
    obtain ⟨d, rfl, rfl, rfl⟩ := Day.exists_isOn_iff.mpr ⟨hday, hdigits.year_le⟩
    exact ⟨d, (Day.isSpelled_iff_isDigitDate hplus).mpr hdigits⟩

/-! ## Accepted dates -/

/-- Every day of the calendar is accepted from its text of digits, and of the texts without a plus
sign no other is accepted. -/
theorem screenDate_calendar :
    (∀ year month day, IsCalendarDay year month day → year ≤ 9999 →
      ∃ d : Day, d.IsOn year month day ∧ IsDigitDate d.iso year month day ∧
        screenDate d.iso = .ok d) ∧
    ∀ text : String, '+' ∉ text.toList →
      (∀ d, screenDate text = .ok d ↔
        IsCalendarDay d.year d.month d.day ∧ IsDigitDate text d.year d.month d.day) ∧
      ∀ r, screenDate text = .error r ↔
        (¬ ∃ year month day, IsCalendarDay year month day ∧ IsDigitDate text year month day) ∧
          r = .invalidDate text := by
  constructor
  · intro year month day hday hyear
    obtain ⟨d, rfl, rfl, rfl⟩ := Day.exists_isOn_iff.mpr ⟨hday, hyear⟩
    refine ⟨d, ⟨rfl, rfl, rfl⟩, d.isDigitDate_iso, ?_⟩
    rw [screenDate, d.read?_iso]
  · intro text hplus
    refine ⟨fun d => ?_, fun r => ?_⟩
    · obtain ⟨hday, _⟩ := Day.exists_isOn_iff.mp ⟨d, rfl, rfl, rfl⟩
      rw [screenDate_eq_ok_iff, Day.isSpelled_iff_isDigitDate hplus]
      exact (and_iff_right hday).symm
    · rw [screenDate_eq_error_iff, exists_isSpelled_iff hplus]

/-- The last day of February is accepted in 2000 and not in 1900. -/
theorem screenDate_calendar_centuries :
    IsCalendarDay 2000 2 29 ∧
      (∃ d : Day, d.IsOn 2000 2 29 ∧ IsDigitDate d.iso 2000 2 29 ∧ screenDate d.iso = .ok d) ∧
      '+' ∉ "1900-02-29".toList ∧
      screenDate "1900-02-29" = .error (.invalidDate "1900-02-29") ∧
      ¬ ∃ year month day, IsCalendarDay year month day ∧
        IsDigitDate "1900-02-29" year month day := by
  have hday : IsCalendarDay 2000 2 29 :=
    isCalendarDay_iff.mpr (by decide)
  have hplus : '+' ∉ "1900-02-29".toList := by decide +kernel
  have hscreen : screenDate "1900-02-29" = .error (.invalidDate "1900-02-29") := by decide +kernel
  exact ⟨hday, screenDate_calendar.1 2000 2 29 hday (by decide), hplus, hscreen,
    (((screenDate_calendar.2 _ hplus).2 _).mp hscreen).1⟩

end Remittance
