import Remittance.Proofs.Timing
import Remittance.Proofs.WrittenNumber

/-!
# The written form of a day

Every calendar day is read back from its written form (`Day.read?_iso`).  With zeros in front the
years up to 9999 fill four digits and months and days two (`length_padded`), so that the dashes
stand where the reader looks for them, and the zeros do not change what is read (`isRun_padded`).

The written form is a word that can stand in a sentence (`Day.isPlainWord_iso`).
-/

namespace Remittance

/-! ## Written days -/

namespace Day

open Numeral

lemma readField?_padded (width n : Nat) : readField? (padded width n) = some n := by
  have hread := readInteger?_append .absent (isRun_padded width n)
  rw [List.nil_append, Int.one_mul] at hread
  rw [readField?, hread]

/-- The reader takes a text apart at the two dashes. -/
lemma readChars?_append {year month day : List Char} (hyear : year.length = 4)
    (hmonth : month.length = 2) (hday : day.length = 2) :
    readChars? (year ++ '-' :: month ++ '-' :: day) =
      (readField? year).bind fun y => (readField? month).bind fun m =>
        (readField? day).bind fun d => of? y m d := by
  obtain ⟨m₁, m₂, rfl⟩ := List.length_eq_two.mp hmonth
  obtain ⟨d₁, d₂, rfl⟩ := List.length_eq_two.mp hday
  match year, hyear with
  | [y₁, y₂, y₃, y₄], _ => rfl

/-- A day is read back from its written form. -/
theorem read?_iso (d : Day) : read? d.iso = some d := by
  have hyear : d.year < 10 ^ 4 := Nat.lt_succ_of_le d.exists_day.2.1
  have hmonth : d.month < 10 ^ 2 := Nat.lt_of_le_of_lt d.month_le (by decide)
  have hday : d.day < 10 ^ 2 := Nat.lt_of_le_of_lt d.day_le (by decide)
  have hchars := readChars?_append (length_padded (by decide) hyear)
    (length_padded (by decide) hmonth) (length_padded (by decide) hday)
  rw [read?, iso, String.toList_ofList, hchars, readField?_padded, readField?_padded,
    readField?_padded]
  exact dif_pos d.exists_day

/-- The written form of a day holds digits and dashes only. -/
lemma mem_iso {d : Day} {c : Char} (hc : c ∈ d.iso.toList) : c ∈ '-' :: digitCharacters := by
  rw [iso, String.toList_ofList] at hc
  simp only [List.mem_append, List.mem_cons] at hc
  rcases hc with (hc | rfl | hc) | rfl | hc
  · exact List.mem_cons_of_mem _ ((isRun_padded 4 d.year).mem_digitCharacters hc)
  · exact List.mem_cons_self
  · exact List.mem_cons_of_mem _ ((isRun_padded 2 d.month).mem_digitCharacters hc)
  · exact List.mem_cons_self
  · exact List.mem_cons_of_mem _ ((isRun_padded 2 d.day).mem_digitCharacters hc)

lemma iso_ne_empty (d : Day) : d.iso ≠ "" := by
  intro hempty
  have hread := d.read?_iso
  rw [hempty] at hread
  cases hread

/-- The written form of a day is a word of a sentence. -/
lemma isPlainWord_iso (d : Day) : Text.IsPlainWord d.iso :=
  Text.isPlainWord_of_digits d.iso_ne_empty fun _ hc => mem_iso hc

end Day

end Remittance
