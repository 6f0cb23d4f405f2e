import Remittance.Proofs.Precedence

/-!
# What the day decides

The day on which a request is cleared decides whether its order is carried out or set down, and
nothing else.  `Request.ComparedOn` says what two days have in common for a request, and
`Transaction.TimedOn` what a transaction shows of its day.  `clear_day_decides_timing` puts both
together: the judgement never sees the day, and the one test that does, `Instruction.isDue`, stays
true once it is.

Days are compared by the digits of their written form.  `Day.not_le_iff` ties that to the calendar:
year before month before day of the month.
-/

namespace Remittance

/-! ## The order of the days -/

namespace Day

/-- The day comes before another in the calendar. -/
def Precedes (a b : Day) : Prop :=
  a.year < b.year ∨
    a.year = b.year ∧ (a.month < b.month ∨ a.month = b.month ∧ a.day < b.day)

lemma month_le (d : Day) : d.month ≤ 12 := by
  obtain ⟨_, _, hfirst, hlast⟩ := d.exists_day
  by_contra hmonth
  have hnone : daysInMonth d.year d.month = 0 := by
    unfold daysInMonth
    split <;> omega
  omega

lemma day_le (d : Day) : d.day ≤ 31 := by
  obtain ⟨_, _, _, hlast⟩ := d.exists_day
  refine Nat.le_trans hlast ?_
  unfold daysInMonth
  split
  · split <;> omega
  all_goals omega

lemma le_trans {a b c : Day} (hab : a ≤ b) (hbc : b ≤ c) : a ≤ c :=
  Nat.le_trans hab hbc

/-- The written form orders the days as the calendar does, because month and day take up two digits
each. -/
lemma not_le_iff {a b : Day} : ¬ a ≤ b ↔ b.Precedes a := by
  have hmonth := a.month_le
  have hmonth' := b.month_le
  have hday := a.day_le
  have hday' := b.day_le
  have hstamp : ¬ a ≤ b ↔ b.stamp < a.stamp := Nat.not_le
  rw [hstamp, Precedes, stamp, stamp]
  omega

end Day

/-! ## Whether an order is due -/

lemma Instruction.isDue_mono {α : Type} {order : Instruction α Day} {first second : Day}
    (hle : first ≤ second) (h : order.isDue first = true) : order.isDue second = true := by
  unfold isDue at h ⊢
  split at h
  · rfl
  · exact decide_eq_true (Day.le_trans (of_decide_eq_true h) hle)

/-- An order that waits has a day, and it comes after today. -/
lemma Instruction.isDue_eq_false_iff {α : Type} {order : Instruction α Day} {today : Day} :
    order.isDue today = false ↔ ∃ day, order.date = some day ∧ today.Precedes day := by
  unfold isDue
  cases order.date with
  | none => simp
  | some day => simp [← Day.not_le_iff]

/-! ## Transactions and their day -/

namespace Transaction

/-- The transaction was carried out at once. -/
structure IsExecuted (t : Transaction) : Prop where
  code : t.code = "AP00"
  status : t.status = .successful
  executeBy : t.executeBy = none

/-- The transaction was set down for a day. -/
structure IsDeferredTo (t : Transaction) (day : Day) : Prop where
  code : t.code = "AP02"
  status : t.status = .pending
  executeBy : t.executeBy = some day.iso

/-- Two transactions report the same transfer, with the same balances before it. -/
structure SameTransfer (t u : Transaction) : Prop where
  kind : t.kind = u.kind
  amount : t.amount = u.amount
  currency : t.currency = u.currency
  debit : t.debit = u.debit
  credit : t.credit = u.credit
  entries : (t.accounts.map fun e => (e.id, e.balanceBefore, e.currency)) =
    u.accounts.map fun e => (e.id, e.balanceBefore, e.currency)

section OfOrder

variable {order : Order} {accounts : List Account} {today : Day}

lemma isExecuted_ofOrder (h : order.isDue today = true) :
    (ofOrder order accounts today).IsExecuted := by
  simp only [ofOrder, h, if_true]
  exact ⟨rfl, rfl, rfl⟩

lemma isDeferredTo_ofOrder {day : Day} (h : order.isDue today = false)
    (hday : order.date = some day) : (ofOrder order accounts today).IsDeferredTo day := by
  simp only [ofOrder, h, hday, Bool.false_eq_true, if_false]
  exact ⟨rfl, rfl, rfl⟩

lemma isDue_of_code (h : (ofOrder order accounts today).code = "AP00") :
    order.isDue today = true := by
  by_contra hlate
  rw [Bool.not_eq_true] at hlate
  obtain ⟨day, hday, _⟩ := Instruction.isDue_eq_false_iff.mp hlate
  rw [(isDeferredTo_ofOrder hlate hday).code] at h
  exact absurd h (by decide)

lemma isDue_of_code_pending (h : (ofOrder order accounts today).code = "AP02") :
    order.isDue today = false := by
  by_contra hdue
  rw [Bool.not_eq_false] at hdue
  rw [(isExecuted_ofOrder hdue).code] at h
  exact absurd h (by decide)

/-- The day enters a transaction through the test whether the order is due. -/
lemma ofOrder_congr {first second : Day} (h : order.isDue first = order.isDue second) :
    ofOrder order accounts first = ofOrder order accounts second := by
  simp only [ofOrder, h]

lemma sameTransfer_ofOrder (first second : Day) :
    (ofOrder order accounts first).SameTransfer (ofOrder order accounts second) := by
  refine ⟨rfl, rfl, rfl, rfl, rfl, ?_⟩
  simp only [ofOrder, List.map_map]
  rfl

end OfOrder

end Transaction

/-! ## Requests and their day -/

namespace Request

/-- The text of the request is a sentence that gives a day of the calendar. -/
def GivesDay (request : Request) (day : Day) : Prop :=
  ∃ i text, Sentence.read request.text = .ok i ∧ i.date = some text ∧ Day.read? text = some day

/-- The day of an order is the one that the text gives. -/
lemma givesDay_iff {request : Request} {order : Order} (h : request.judge = .ok order)
    (day : Day) : request.GivesDay day ↔ order.date = some day := by
  obtain ⟨i, hread, _⟩ := bind_eq_ok_iff.mp h
  obtain rfl := Sentence.eq_reading_of_parse hread
  have hdate := (comesTo_of_judge h).passes.date
  have htext : request.instruction.date =
      (Sentence.reading (Text.words request.text)).date := rfl
  rw [htext] at hdate
  constructor
  · rintro ⟨i, text, hi, hsome, hday⟩
    rw [hread] at hi
    obtain rfl := Except.ok.inj hi
    have hne : text ≠ "" := instruction_date_ne_empty (htext.trans hsome)
    rw [hsome, screenOptionalDate_some hne, hday] at hdate
    exact (Except.ok.inj hdate).symm
  · intro horder
    cases hsome : (Sentence.reading (Text.words request.text)).date with
    | none =>
      rw [hsome, horder] at hdate
      cases hdate
    | some text =>
      have hne : text ≠ "" := instruction_date_ne_empty (htext.trans hsome)
      rw [hsome, screenOptionalDate_some hne] at hdate
      refine ⟨_, text, hread, hsome, ?_⟩
      cases hday : Day.read? text with
      | none =>
        rw [hday] at hdate
        cases hdate
      | some read =>
        rw [hday, horder] at hdate
        exact Except.ok.inj hdate

/-- What becomes of a request on two days, of which the first is not after the second. -/
structure ComparedOn (request : Request) (first second : Day) : Prop where
  /-- It is refused on both days or on neither, and in the same way. -/
  refused : ∀ e, (clear request first).outcome = .error e ↔
    (clear request second).outcome = .error e
  /-- Two transactions of it differ at most in what was carried out, and only if the first of them
  waits and the second does not. -/
  settled : ∀ t, (clear request first).outcome = .ok t →
    ∃ u, (clear request second).outcome = .ok u ∧ t.SameTransfer u ∧
      (t.code = "AP00" → u = t) ∧ (u.code = "AP02" → u = t)

end Request

/-- The transaction of a request fits the day on which it was made: it waits for the day that the
text gives if that comes after today, and is carried out otherwise. -/
def Transaction.TimedOn (t : Transaction) (request : Request) (today : Day) : Prop :=
  (∃ day, request.GivesDay day ∧ today.Precedes day ∧ t.IsDeferredTo day) ∨
    (¬ ∃ day, request.GivesDay day ∧ today.Precedes day) ∧ t.IsExecuted

lemma Transaction.timedOn_of_judge {request : Request} {order : Order}
    (h : request.judge = .ok order) (today : Day) :
    (ofOrder order request.involved today).TimedOn request today := by
  unfold TimedOn
  simp only [Request.givesDay_iff h]
  cases hdue : order.isDue today with
  | true =>
    refine .inr ⟨fun hlate => ?_, isExecuted_ofOrder hdue⟩
    rw [Instruction.isDue_eq_false_iff.mpr hlate] at hdue
    cases hdue
  | false =>
    obtain ⟨day, hday, hlater⟩ := Instruction.isDue_eq_false_iff.mp hdue
    exact .inl ⟨day, hday, hlater, isDeferredTo_ofOrder hdue hday⟩

lemma Request.comparedOn {request : Request} {first second : Day} (hle : first ≤ second) :
    request.ComparedOn first second := by
  constructor
  · intro e
    rw [outcome_eq_error_iff, outcome_eq_error_iff]
  · intro t ht
    obtain ⟨order, hjudge, rfl⟩ := outcome_eq_ok_iff.mp ht
    refine ⟨_, outcome_eq_ok_iff.mpr ⟨order, hjudge, rfl⟩,
      Transaction.sameTransfer_ofOrder first second, fun hcode => ?_, fun hcode => ?_⟩
    · have hfirst := Transaction.isDue_of_code hcode
      have hsecond := Instruction.isDue_mono hle hfirst
      exact Transaction.ofOrder_congr (hsecond.trans hfirst.symm)
    · have hsecond := Transaction.isDue_of_code_pending hcode
      have hfirst : order.isDue first = false := by
        by_contra hdue
        rw [Bool.not_eq_false] at hdue
        rw [Instruction.isDue_mono hle hdue] at hsecond
        cases hsecond
      exact Transaction.ofOrder_congr (hsecond.trans hfirst.symm)

/-- The day decides nothing but the timing of a request. -/
theorem clear_day_decides_timing (request : Request) {first second : Day} (hle : first ≤ second) :
    request.ComparedOn first second ∧
      ∀ today t, (clear request today).outcome = .ok t → t.TimedOn request today := by
  refine ⟨Request.comparedOn hle, fun today t ht => ?_⟩
  obtain ⟨order, hjudge, rfl⟩ := outcome_eq_ok_iff.mp ht
  exact Transaction.timedOn_of_judge hjudge today

/-- A transfer in the credit form for the leap day of 2028. -/
def leapDay : Request where
  accounts := [⟨"b", 0, "GBP"⟩, ⟨"c", 3, "EUR"⟩, ⟨"a", 5, "GBP"⟩]
  text := "Credit 0x5 gbp to account b for debit from account a on 2028-02-29"

/-- On the eve of its day the transfer waits, and on the day it is carried out. -/
theorem clear_day_decides_timing_leapDay :
    (⟨2028, 2, 28, by decide⟩ : Day) ≤ ⟨2028, 2, 29, by decide⟩ ∧
      leapDay.ComparedOn ⟨2028, 2, 28, by decide⟩ ⟨2028, 2, 29, by decide⟩ ∧
      (∀ today t, (clear leapDay today).outcome = .ok t → t.TimedOn leapDay today) ∧
      ((clear leapDay ⟨2028, 2, 28, by decide⟩).outcome.toOption.map (·.code),
        (clear leapDay ⟨2028, 2, 29, by decide⟩).outcome.toOption.map (·.code)) =
          (some "AP02", some "AP00") := by
  have hle : (⟨2028, 2, 28, by decide⟩ : Day) ≤ ⟨2028, 2, 29, by decide⟩ := by decide
  obtain ⟨hcompared, htimed⟩ := clear_day_decides_timing leapDay hle
  exact ⟨hle, hcompared, htimed, by decide +kernel⟩

end Remittance
