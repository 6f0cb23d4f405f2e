import Remittance.Proofs.Screening

/-!
# The verdict on an instruction

The screening passes exactly the instructions that meet all of `instructionRequirements`, and
`Instruction.Yields` is the order that they become.  Of the others the rejection has the code of the
first requirement that is not met and shows the value at fault (`Instruction.Exhibits`), which
leaves one rejection only.

Nothing is assumed of the instruction: its amount may be any scalar, and its ids, currency and day
may be texts that no sentence gives.  This includes an amount that cannot be shown, an integer below
one with more digits than are written (`Instruction.HasLongAmount`).  Where the amount is what such
an instruction is to be turned down for, there is no rejection but a fault; `screen_overlong` is one
of these.
-/

namespace Remittance

open Requirement

/-! ## Rejections of single values -/

lemma screenId_eq_error {id : String} {r : Rejection} (h : screenId id = .error r) :
    ¬ IsAccountId id ∧ r = .invalidAccountId id := by
  refine ⟨(firstUnmet_singleton.mp ((decides_screenId id).firstUnmet h)).1, ?_⟩
  unfold screenId at h
  split at h
  · cases h
  · exact (Except.error.inj h).symm

lemma screenCurrency_eq_error {currency : String} {r : Rejection}
    (h : screenCurrency currency = .error r) : r = .unsupportedCurrency currency := by
  simp only [screenCurrency] at h
  split at h
  · cases h
  · exact (Except.error.inj h).symm

/-! ## Days -/

/-- Where the day of an order comes from: there is none for no text or the empty one, and for any
other text it is the day that the text is accepted as. -/
inductive DayOf : Option String → Option Day → Prop
  | absent : DayOf none none
  | empty : DayOf (some "") none
  | given {text : String} {day : Day} (hne : text ≠ "") (hday : screenDate text = .ok day) :
      DayOf (some text) (some day)

lemma dayOf_of_screenOptionalDate {date : Option String} {day : Option Day}
    (h : screenOptionalDate date = .ok day) : DayOf date day := by
  cases date with
  | none =>
    obtain rfl := Except.ok.inj h
    exact .absent
  | some text =>
    by_cases hempty : text = ""
    · subst hempty
      obtain rfl := Except.ok.inj h
      exact .empty
    · rw [screenOptionalDate_some hempty] at h
      split at h
      next d hd =>
        obtain rfl := Except.ok.inj h
        refine .given hempty ?_
        rw [screenDate, hd]
      · cases h

lemma exists_of_screenOptionalDate {date : Option String} {r : Rejection}
    (h : screenOptionalDate date = .error r) :
    ∃ text, date = some text ∧ r = .invalidDate text := by
  cases date with
  | none => cases h
  | some text =>
    refine ⟨text, rfl, ?_⟩
    by_cases hempty : text = ""
    · subst hempty
      cases h
    · rw [screenOptionalDate_some hempty] at h
      split at h
      · cases h
      · exact (Except.error.inj h).symm

/-! ## Orders and rejections -/

namespace Instruction

variable {i : RawInstruction}

/-- The order that an instruction becomes. -/
structure Yields (i : RawInstruction) (o : Order) : Prop where
  kind : o.kind = i.kind
  debit : o.debit = i.debit
  credit : o.credit = i.credit
  amount : i.amount = .whole o.amount
  currency : o.currency = Text.upper i.currency
  date : DayOf i.date o.date

lemma PassesAs.yields {o : Order} (h : i.PassesAs o) : i.Yields o :=
  ⟨h.kind, h.debit, h.credit, h.amount, h.currency, dayOf_of_screenOptionalDate h.date⟩

/-- The rejection shows a value of the instruction, and the credit id only where the debit id is not
at fault. -/
inductive Exhibits (i : RawInstruction) : Rejection → Prop
  | debit (h : ¬ IsAccountId i.debit) : Exhibits i (.invalidAccountId i.debit)
  | credit (h : IsAccountId i.debit) : Exhibits i (.invalidAccountId i.credit)
  | same : Exhibits i .sameAccount
  | amount : Exhibits i (.invalidAmount i.amount)
  | currency : Exhibits i (.unsupportedCurrency i.currency)
  | date {text : String} (h : i.date = some text) : Exhibits i (.invalidDate text)

/-- The code of a rejection determines the value that it shows. -/
lemma Exhibits.eq_of_code {r s : Rejection} (hr : i.Exhibits r) (hs : i.Exhibits s)
    (hcode : r.code = s.code) : r = s := by
  cases hr with
  | debit hdebit =>
    cases hs with
    | debit => rfl
    | credit h => exact absurd h hdebit
    | _ => cases hcode
  | credit hdebit =>
    cases hs with
    | debit h => exact absurd hdebit h
    | credit => rfl
    | _ => cases hcode
  | same =>
    cases hs with
    | same => rfl
    | _ => cases hcode
  | amount =>
    cases hs with
    | amount => rfl
    | _ => cases hcode
  | currency =>
    cases hs with
    | currency => rfl
    | _ => cases hcode
  | date hdate =>
    cases hs with
    | date h => rw [Option.some.inj (hdate.symm.trans h)]
    | _ => cases hcode

/-- Every rejection of an instruction shows one of its values. -/
lemma exhibits_of_judge {r : Rejection} (h : i.judge = .error r) : i.Exhibits r := by
  rcases bind_eq_error_iff.mp h with hdebit | ⟨debit, hdebit, h⟩
  · obtain ⟨hinvalid, rfl⟩ := screenId_eq_error hdebit
    exact .debit hinvalid
  have hdebitId := (screenId_eq_ok_iff.mp hdebit).1
  rcases bind_eq_error_iff.mp h with hcredit | ⟨credit, hcredit, h⟩
  · obtain ⟨_, rfl⟩ := screenId_eq_error hcredit
    exact .credit hdebitId
  split at h
  · cases h
    exact .same
  rcases bind_eq_error_iff.mp h with hamount | ⟨_, _, h⟩
  · rw [judgeAmount_eq_error hamount]
    exact .amount
  rcases bind_eq_error_iff.mp h with hcurrency | ⟨_, _, h⟩
  · rw [screenCurrency_eq_error hcurrency]
    exact .currency
  rcases bind_eq_error_iff.mp h with hdate | ⟨_, _, h⟩
  · obtain ⟨text, htext, rfl⟩ := exists_of_screenOptionalDate hdate
    exact .date htext
  · cases h

/-- An instruction is turned down with the code of the first requirement that it does not meet and
with the value at fault. -/
lemma judge_eq_error_iff {r : Rejection} :
    i.judge = .error r ↔ FirstUnmet (instructionRequirements i) r.code ∧ i.Exhibits r := by
  constructor
  · intro hr
    exact ⟨(decides_judge i).firstUnmet hr, exhibits_of_judge hr⟩
  · rintro ⟨hfirst, hexhibits⟩
    obtain ⟨s, hs, hcode⟩ := (decides_judge i).exists_error hfirst
    rw [hs, (exhibits_of_judge hs).eq_of_code hexhibits hcode]

/-! ## Amounts that cannot be shown -/

/-- The amount is an integer with more digits than are written. -/
def HasLongAmount (i : RawInstruction) : Prop :=
  ∃ n : Int, i.amount = .whole n ∧ 10 ^ Numeral.digitLimit ≤ n.natAbs

lemma isWritable_amount_eq_false_iff : i.amount.isWritable = false ↔ i.HasLongAmount := by
  rw [HasLongAmount]
  constructor
  · intro h
    cases hamount : i.amount with
    | number x =>
      rw [hamount] at h
      cases x with
      | whole n => exact ⟨n, rfl, Numeral.isWritable_eq_false_iff.mp h⟩
      | binary x => cases h
    | _ =>
      rw [hamount] at h
      cases h
  · rintro ⟨n, hn, hlong⟩
    rw [hn]
    exact Numeral.isWritable_eq_false_iff.mpr hlong

/-- Of the rejections of an instruction only that of the amount may have a message that cannot be
written. -/
lemma Exhibits.isTellable_eq_false_iff {r : Rejection} (h : i.Exhibits r) :
    r.isTellable = false ↔ r.code = .invalidAmount ∧ i.HasLongAmount := by
  cases h with
  | amount =>
    rw [← isWritable_amount_eq_false_iff]
    exact ⟨fun h => ⟨rfl, h⟩, And.right⟩
  | _ => exact ⟨fun h => (nomatch h), fun h => (nomatch h.1)⟩

lemma Exhibits.isTellable {r : Rejection} (h : i.Exhibits r) (hamount : i.amount.isWritable = true) :
    r.isTellable = true := by
  rw [← Bool.not_eq_false, h.isTellable_eq_false_iff, ← isWritable_amount_eq_false_iff, hamount]
  exact fun h => (nomatch h.2)

lemma screen_eq_rejected_iff {r : Rejection} :
    i.screen = .error (.rejected r) ↔
      FirstUnmet (instructionRequirements i) r.code ∧ i.Exhibits r ∧
        ¬ (r.code = .invalidAmount ∧ i.HasLongAmount) := by
  rw [screen_eq, tell_eq_rejected_iff, judge_eq_error_iff, and_assoc]
  refine and_congr_right fun _ => and_congr_right fun hexhibits => ?_
  rw [← hexhibits.isTellable_eq_false_iff, Bool.not_eq_false]

lemma screen_eq_fault_iff {f : Fault} :
    i.screen = .error (.fault f) ↔
      f = .tooManyDigits ∧ FirstUnmet (instructionRequirements i) .invalidAmount ∧
        i.HasLongAmount := by
  rw [screen_eq, tell_eq_fault_iff]
  refine and_congr_right fun _ => ?_
  constructor
  · rintro ⟨r, hr, htellable⟩
    obtain ⟨hfirst, hexhibits⟩ := judge_eq_error_iff.mp hr
    obtain ⟨hcode, hlong⟩ := hexhibits.isTellable_eq_false_iff.mp htellable
    exact ⟨hcode ▸ hfirst, hlong⟩
  · rintro ⟨hfirst, hlong⟩
    obtain ⟨r, hr, hcode⟩ := (decides_judge i).exists_error hfirst
    exact ⟨r, hr, (exhibits_of_judge hr).isTellable_eq_false_iff.mpr ⟨hcode, hlong⟩⟩

/-! ## The verdict -/

/-- The screening of an instruction.  It gives an order if and only if the instruction meets all
requirements, and then the one that the instruction yields.  Otherwise it gives the rejection for
the first requirement that is not met, unless this is the one on the amount and the amount has too
many digits to be written: then it ends with a fault. -/
theorem screen_verdict (i : RawInstruction) :
    ((∃ o, i.screen = .ok o) ↔ AllMet (instructionRequirements i)) ∧
      (∀ o, i.screen = .ok o → i.Yields o) ∧
      (∀ r, i.screen = .error (.rejected r) ↔
        FirstUnmet (instructionRequirements i) r.code ∧ i.Exhibits r ∧
          ¬ (r.code = .invalidAmount ∧ i.HasLongAmount)) ∧
      ∀ f, i.screen = .error (.fault f) ↔
        f = .tooManyDigits ∧ FirstUnmet (instructionRequirements i) .invalidAmount ∧
          i.HasLongAmount := by
  have hdecides := decides_judge i
  refine ⟨?_, fun o ho => (passesAs_of_screen ho).yields, fun r => screen_eq_rejected_iff,
    fun f => screen_eq_fault_iff⟩
  simp only [screen_eq, tell_eq_ok_iff]
  constructor
  · rintro ⟨o, ho⟩
    exact hdecides.allMet ho
  · exact hdecides.exists_ok

/-- An instruction with a truth value for its amount, an unsupported currency and no day. -/
def doubtful : RawInstruction :=
  ⟨.credit, .flag true, "eur", "a@b.c", "A-1", some ""⟩

/-- The amount is what such an instruction is turned down for. -/
theorem screen_verdict_doubtful :
    doubtful.screen = .error (.rejected (.invalidAmount (.flag true))) ∧
      FirstUnmet (instructionRequirements doubtful) .invalidAmount ∧
      doubtful.Exhibits (.invalidAmount (.flag true)) := by
  have hscreen : doubtful.screen = .error (.rejected (.invalidAmount (.flag true))) := by
    decide +kernel
  obtain ⟨hfirst, hexhibits, _⟩ := ((screen_verdict doubtful).2.2.1 _).mp hscreen
  exact ⟨hscreen, hfirst, hexhibits⟩

/-- An instruction with a negative amount of one digit more than are written. -/
def overlong : RawInstruction :=
  ⟨.debit, .whole (-(10 ^ Numeral.digitLimit : Nat)), "USD", "a", "b", none⟩

/-- The amount is what such an instruction is to be turned down for, but there is no rejection. -/
theorem screen_overlong :
    FirstUnmet (instructionRequirements overlong) .invalidAmount ∧
      overlong.screen = .error (.fault .tooManyDigits) := by
  have hlong : overlong.HasLongAmount := by
    refine ⟨_, rfl, Nat.le_of_eq ?_⟩
    rw [Int.natAbs_neg, Int.natAbs_natCast]
  have hamount : ¬ ∃ n : Int, 1 ≤ n ∧ overlong.amount = .whole n := by
    rintro ⟨n, hn, heq⟩
    have hnumber : n = -(10 ^ Numeral.digitLimit : Nat) :=
      (Number.whole.inj (Scalar.number.inj heq)).symm
    have hneg : n ≤ 0 := hnumber ▸ Int.neg_nonpos_of_nonneg (Int.natCast_nonneg _)
    omega
  have hfirst : FirstUnmet (instructionRequirements overlong) .invalidAmount := by
    have hdebit : screenId overlong.debit = .ok overlong.debit := by decide
    have hcredit : screenId overlong.credit = .ok overlong.credit := by decide
    refine firstUnmet_cons.mpr (.inr ⟨(screenId_eq_ok_iff.mp hdebit).1, ?_⟩)
    refine firstUnmet_cons.mpr (.inr ⟨(screenId_eq_ok_iff.mp hcredit).1, ?_⟩)
    refine firstUnmet_cons.mpr (.inr ⟨by decide, ?_⟩)
    exact firstUnmet_cons.mpr (.inl ⟨hamount, rfl⟩)
  exact ⟨hfirst, screen_eq_fault_iff.mpr ⟨rfl, hfirst, hlong⟩⟩

end Instruction

end Remittance
