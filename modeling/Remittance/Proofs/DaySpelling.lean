import Remittance.Proofs.DayText

/-!
# The spellings of a day

The reader of days takes every field for a signed integer.  No field of a day is zero or negative,
but where the written form has a zero in front of a field, a plus sign is read as well.
`Day.IsSpelled` are the texts that differ from the written form in such signs, and
`Day.read?_eq_some_iff` says that no other text is read.

That the fields leave no other choice comes from `IsRun.eq_padded`: a run of digits is determined by
its length and the number that it stands for.
-/

namespace Remittance

namespace Numeral

/-! ## Runs of a given length -/

/-- The last digit of a number with zeros in front is its remainder by ten. -/
lemma padded_succ {width : Nat} (hwidth : 0 < width) (n : Nat) :
    padded (width + 1) n = padded width (n / 10) ++ [Nat.digitChar (n % 10)] := by
  rcases Nat.lt_or_ge n 10 with hn | hn
  · have hzeros : padded width 0 = List.replicate width '0' := by
      change List.replicate (width - 1) '0' ++ ['0'] = _
      rw [← List.replicate_succ', Nat.sub_add_cancel hwidth]
    have hdigits : natural n = [Nat.digitChar n] := Nat.toDigits_of_lt_base hn
    rw [Nat.div_eq_of_lt hn, Nat.mod_eq_of_lt hn, hzeros, padded, hdigits, List.length_singleton,
      Nat.add_sub_cancel]
  · have hdigits : natural n = natural (n / 10) ++ [Nat.digitChar (n % 10)] :=
      Nat.toDigits_of_base_le (by decide) hn
    rw [padded, padded, hdigits, List.length_append, List.length_singleton, Nat.add_sub_add_right,
      List.append_assoc]

namespace IsRun

variable {cs : List Char} {n : Nat}

/-- A run of digits is the number that it stands for with zeros in front. -/
lemma eq_padded (h : IsRun cs n) : cs = padded cs.length n := by
  obtain ⟨digits, hne, hlt, rfl, rfl⟩ := h
  rw [List.length_map]
  induction digits using List.reverseRecOn with
  | nil => exact absurd rfl hne
  | append_singleton front d ih =>
    obtain ⟨hfront, hd⟩ := List.forall_mem_append.mp hlt
    have hd := hd d List.mem_cons_self
    rcases front with _ | ⟨c, front⟩
    · have hdigit : natural d = [Nat.digitChar d] := Nat.toDigits_of_lt_base hd
      simp [padded, ofDigits, hdigit]
    · have hvalue : ofDigits 10 (c :: front ++ [d]) = ofDigits 10 (c :: front) * 10 + d := by
        rw [ofDigits_append]
        simp [ofDigits]
      have hquotient : (ofDigits 10 (c :: front) * 10 + d) / 10 = ofDigits 10 (c :: front) := by
        omega
      have hremainder : (ofDigits 10 (c :: front) * 10 + d) % 10 = d := by
        omega
      rw [hvalue, List.length_append, List.length_singleton, padded_succ (by simp), hquotient,
        hremainder, ← ih (List.cons_ne_nil _ _) hfront, List.map_append, List.map_singleton]

lemma lt_pow_length (h : IsRun cs n) : n < 10 ^ cs.length := by
  have hpos : 0 < cs.length := List.length_pos_iff.mpr h.ne_nil
  have hlength := congrArg List.length h.eq_padded
  rw [padded, List.length_append, List.length_replicate] at hlength
  exact (Nat.length_toDigits_le_iff (by decide) hpos).mp (by
    change (natural n).length ≤ cs.length
    omega)

end IsRun

end Numeral

namespace Day

open Numeral

/-! ## Fields -/

/-- A field of a written day: its number with zeros in front up to the width, the first of which may
be a plus sign instead. -/
inductive IsField (width n : Nat) : List Char → Prop
  | digits (h : n < 10 ^ width) : IsField width n (padded width n)
  | signed (h : n < 10 ^ (width - 1)) : IsField width n ('+' :: padded (width - 1) n)

lemma IsField.length {width n : Nat} (hwidth : 1 < width) {cs : List Char}
    (h : IsField width n cs) : cs.length = width := by
  cases h with
  | digits h => exact length_padded (by omega) h
  | signed h =>
    rw [List.length_cons, length_padded (by omega) h]
    omega

lemma IsField.eq_padded {width n : Nat} {cs : List Char} (h : IsField width n cs)
    (hplus : '+' ∉ cs) : cs = padded width n := by
  cases h with
  | digits _ => rfl
  | signed _ => exact absurd List.mem_cons_self hplus

/-- A positive number is read from its fields only. -/
lemma readField?_eq_some_iff {n : Nat} (hpos : 0 < n) {cs : List Char} :
    readField? cs = some n ↔ IsField cs.length n cs := by
  constructor
  · intro h
    have hread : readInteger? cs = some (n : Int) := by
      unfold readField? at h
      split at h
      next m hm => rw [hm, ← Option.some.inj h, Int.ofNat_eq_natCast]
      · cases h
    obtain ⟨sign, digits, σ, m, hsign, hrun, rfl, hvalue⟩ := exists_of_readInteger? hread
    cases hsign with
    | absent =>
      obtain rfl : n = m := by omega
      have hfield := IsField.digits hrun.lt_pow_length
      rwa [← hrun.eq_padded] at hfield
    | plus =>
      obtain rfl : n = m := by omega
      have hlt : n < 10 ^ (digits.length + 1 - 1) := by simpa using hrun.lt_pow_length
      have hfield := IsField.signed hlt
      rwa [Nat.add_sub_cancel, ← hrun.eq_padded] at hfield
    | minus => omega
  · intro h
    generalize cs.length = width at h
    cases h with
    | digits _ => exact readField?_padded width n
    | signed _ =>
      have hread := readInteger?_append .plus (isRun_padded (width - 1) n)
      rw [List.singleton_append, Int.one_mul] at hread
      rw [readField?, hread]

/-! ## Days -/

lemma of?_eq_some_iff {year month day : Nat} {d : Day} :
    of? year month day = some d ↔ year = d.year ∧ month = d.month ∧ day = d.day := by
  unfold of?
  constructor
  · intro h
    split at h
    · cases h
      exact ⟨rfl, rfl, rfl⟩
    · cases h
  · rintro ⟨rfl, rfl, rfl⟩
    exact dif_pos d.exists_day

lemma one_le_month (d : Day) : 1 ≤ d.month := by
  obtain ⟨_, _, hfirst, hlast⟩ := d.exists_day
  by_contra hmonth
  have hzero : d.month = 0 := by omega
  have hnone : daysInMonth d.year d.month = 0 := by
    rw [hzero]
    rfl
  omega

/-- The text is the written form of the day, where the first zero of a field may be a plus sign. -/
def IsSpelled (d : Day) (text : String) : Prop :=
  ∃ year month day, IsField 4 d.year year ∧ IsField 2 d.month month ∧ IsField 2 d.day day ∧
    text.toList = year ++ '-' :: month ++ '-' :: day

/-- A day is read from its spellings only. -/
theorem read?_eq_some_iff {text : String} {d : Day} : read? text = some d ↔ d.IsSpelled text := by
  have hyear := d.exists_day.1
  have hmonth := d.one_le_month
  have hday := d.exists_day.2.2.1
  constructor
  · intro h
    unfold read? readChars? at h
    split at h
    next y₁ y₂ y₃ y₄ m₁ m₂ d₁ d₂ htext =>
      obtain ⟨year, hy, h⟩ := Option.bind_eq_some_iff.mp h
      obtain ⟨month, hm, h⟩ := Option.bind_eq_some_iff.mp h
      obtain ⟨day, hd, h⟩ := Option.bind_eq_some_iff.mp h
      obtain ⟨rfl, rfl, rfl⟩ := of?_eq_some_iff.mp h
      exact ⟨[y₁, y₂, y₃, y₄], [m₁, m₂], [d₁, d₂], (readField?_eq_some_iff hyear).mp hy,
        (readField?_eq_some_iff hmonth).mp hm, (readField?_eq_some_iff hday).mp hd, htext⟩
    · cases h
  · rintro ⟨year, month, day, hy, hm, hd, htext⟩
    have hylength := hy.length (by decide)
    have hmlength := hm.length (by decide)
    have hdlength := hd.length (by decide)
    rw [← hylength] at hy
    rw [← hmlength] at hm
    rw [← hdlength] at hd
    rw [read?, htext, readChars?_append hylength hmlength hdlength,
      (readField?_eq_some_iff hyear).mpr hy, (readField?_eq_some_iff hmonth).mpr hm,
      (readField?_eq_some_iff hday).mpr hd]
    exact of?_eq_some_iff.mpr ⟨rfl, rfl, rfl⟩

/-- The written form is the one spelling without a plus sign. -/
lemma IsSpelled.iso_eq_iff {d : Day} {text : String} (h : d.IsSpelled text) :
    d.iso = text ↔ '+' ∉ text.toList := by
  constructor
  · rintro rfl hplus
    have hmem := mem_iso hplus
    revert hmem
    decide
  · intro hplus
    obtain ⟨year, month, day, hy, hm, hd, htext⟩ := h
    rw [htext] at hplus
    simp only [List.mem_append, List.mem_cons, not_or] at hplus
    obtain ⟨⟨hyplus, _, hmplus⟩, _, hdplus⟩ := hplus
    rw [iso, ← hy.eq_padded hyplus, ← hm.eq_padded hmplus, ← hd.eq_padded hdplus, ← htext,
      String.ofList_toList]

end Day

/-! ## Accepted dates -/

lemma screenDate_eq_ok_iff {text : String} {d : Day} :
    screenDate text = .ok d ↔ d.IsSpelled text := by
  rw [← Day.read?_eq_some_iff, screenDate]
  cases Day.read? text with
  | none => simp
  | some day => simp

lemma screenDate_eq_error_iff {text : String} {r : Rejection} :
    screenDate text = .error r ↔ (¬ ∃ d : Day, d.IsSpelled text) ∧ r = .invalidDate text := by
  simp only [← Day.read?_eq_some_iff, screenDate]
  cases Day.read? text with
  | none => simp [eq_comm]
  | some day => simp

/-- The word of the request's text that gives the day. -/
def Request.DatedWith (request : Request) (word : String) : Prop :=
  ∃ i, Sentence.read request.text = .ok i ∧ i.date = some word

/-- A pending transaction is for the day that the word of its request spells. -/
lemma Transaction.exists_datedWith {request : Request} {today : Day} {t : Transaction}
    (h : (clear request today).outcome = .ok t) (hpending : t.status = .pending) :
    ∃ word, ∃ day : Day,
      request.DatedWith word ∧ day.IsSpelled word ∧ t.executeBy = some day.iso := by
  obtain ⟨order, hjudge, rfl⟩ := outcome_eq_ok_iff.mp h
  rcases timedOn_of_judge hjudge today with ⟨day, hgives, _, hdeferred⟩ | ⟨_, hexecuted⟩
  · obtain ⟨i, word, hread, hword, hday⟩ := hgives
    exact ⟨word, day, ⟨i, hread, hword⟩, Day.read?_eq_some_iff.mp hday, hdeferred.executeBy⟩
  · rw [hexecuted.status] at hpending
    cases hpending

/-- As a date the spellings of a day are accepted and no other text, and the day of a pending
transaction is shown in its written form.  Both are the text that was given unless that has a plus
sign. -/
theorem screenDate_isSpelled (text : String) (request : Request) (today : Day) :
    (∀ d : Day, screenDate text = .ok d ↔ d.IsSpelled text) ∧
      (∀ r, screenDate text = .error r ↔ (¬ ∃ d : Day, d.IsSpelled text) ∧ r = .invalidDate text) ∧
      (∀ d : Day, d.IsSpelled text → (d.iso = text ↔ '+' ∉ text.toList)) ∧
      ∀ t, (clear request today).outcome = .ok t → t.status = .pending →
        ∃ word, ∃ day : Day,
          request.DatedWith word ∧ day.IsSpelled word ∧ t.executeBy = some day.iso ∧
            (t.executeBy = some word ↔ '+' ∉ word.toList) := by
  refine ⟨fun _ => screenDate_eq_ok_iff, fun _ => screenDate_eq_error_iff,
    fun _ => Day.IsSpelled.iso_eq_iff, ?_⟩
  intro t h hpending
  obtain ⟨word, day, hword, hspelled, hexecute⟩ := Transaction.exists_datedWith h hpending
  refine ⟨word, day, hword, hspelled, hexecute, ?_⟩
  rw [hexecute, Option.some.injEq, hspelled.iso_eq_iff]

/-- A transfer for New Year's Day of 2030, with a plus sign in the month. -/
def newYear : Request where
  accounts := [⟨"a", 5, "USD"⟩, ⟨"b", 0, "USD"⟩]
  text := "DEBIT 5 USD FROM ACCOUNT a FOR CREDIT TO ACCOUNT b ON 2030-+1-01"

/-- While the transfer waits, its day is not shown as it was given. -/
theorem screenDate_isSpelled_newYear :
    ∃ t, (clear newYear ⟨2026, 1, 1, by decide⟩).outcome = .ok t ∧ t.status = .pending ∧
      ∃ word, ∃ day : Day,
        newYear.DatedWith word ∧ day.IsSpelled word ∧ t.executeBy = some day.iso ∧
          (t.executeBy = some word ↔ '+' ∉ word.toList) := by
  have hjudge : newYear.judge =
      .ok ⟨.debit, 5, "USD", "a", "b", some ⟨2030, 1, 1, by decide⟩⟩ := by decide +kernel
  have houtcome : (clear newYear ⟨2026, 1, 1, by decide⟩).outcome =
      .ok (.ofOrder _ newYear.involved ⟨2026, 1, 1, by decide⟩) :=
    outcome_eq_ok_iff.mpr ⟨_, hjudge, rfl⟩
  obtain ⟨_, _, _, hpending⟩ := screenDate_isSpelled "2030-+1-01" newYear ⟨2026, 1, 1, by decide⟩
  exact ⟨_, houtcome, rfl, hpending _ houtcome rfl⟩

/-- A plus sign in the place of the first zero of the year and of the month. -/
theorem screenDate_signed :
    screenDate "+202-+1-01" = .ok ⟨202, 1, 1, by decide⟩ ∧
      (⟨202, 1, 1, by decide⟩ : Day).iso = "0202-01-01" ∧ "0202-01-01" ≠ "+202-+1-01" := by
  decide +kernel

end Remittance
