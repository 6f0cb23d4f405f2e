import Remittance.Proofs.Conservation
import Remittance.Proofs.DayText
import Remittance.Proofs.FormSymmetry
import Remittance.Proofs.WordRuns

/-!
# To give a sentence a day

A sentence of eleven words gives no day, and may be given one by putting it behind the sentence
(`Sentence.dated`).  The two texts are read alike but for the day, phrases that are missing included
(`Sentence.parse_append_day`).  The day is a calendar day, so that it passes the screening, and no
other stage looks at it.

The request with a day is then turned down if and as the one without it is.  If they come to a
transaction, the day decides when it is carried out: `DefersTo` says so of the two outcomes, and
`clear_dated` that it holds for every text of eleven words.
-/

namespace Remittance

/-! ## Texts with a day behind them -/

namespace Sentence

/-- The text with a day put behind it. -/
def dated (text : String) (day : Day) : String :=
  Text.trim text ++ " ON " ++ day.iso

example : dated " debit\n" ⟨2028, 2, 29, by decide⟩ = "debit ON 2028-02-29" := by
  decide +kernel

lemma words_dated (text : String) (day : Day) :
    Text.words (dated text day) = Text.words (Text.trim text) ++ [dateKeyword, day.iso] := by
  have hspace : Text.IsGap " " := by decide
  have hkeyword : Text.words dateKeyword = [dateKeyword] :=
    Text.words_of_isPlainWord (by decide +kernel)
  have hphrase : " ON " = " " ++ dateKeyword ++ " " := rfl
  rw [dated, hphrase, ← String.append_assoc, ← String.append_assoc, Text.words_append_gap hspace,
    Text.words_append_gap hspace, hkeyword, Text.words_of_isPlainWord day.isPlainWord_iso,
    List.append_assoc]
  rfl

lemma trim_dated {text : String} (h : Text.trim text ≠ "") (day : Day) :
    Text.trim (dated text day) = dated text day :=
  Text.trim_trim_append h day.isPlainWord_iso " ON "

end Sentence

/-- The same instruction for another day, or for none. -/
def Instruction.withDate {α δ : Type} (date : Option δ) (i : Instruction α δ) : Instruction α δ :=
  { i with date }

lemma Instruction.mapAmount_withDate {α β δ : Type} (f : α → β) (date : Option δ)
    (i : Instruction α δ) : (i.withDate date).mapAmount f = (i.mapAmount f).withDate date :=
  rfl

namespace Sentence

section Eleven

variable {words : List String} (h : words.length = leastWords) (text : String)

include h

lemma length_append_day : (words ++ [dateKeyword, text]).length = mostWords := by
  rw [List.length_append, h]
  rfl

lemma wordAt_append_day (position : Nat) (hposition : position < leastWords) :
    wordAt (words ++ [dateKeyword, text]) position = wordAt words position :=
  wordAt_append (h ▸ hposition) _

lemma kindOf_append_day : kindOf (words ++ [dateKeyword, text]) = kindOf words :=
  kindOf_append (by rw [h]; decide) _

/-- The two words at the end are the day; every other word stays where it was. -/
lemma reading_append_day :
    reading (words ++ [dateKeyword, text]) = (reading words).withDate (some text) := by
  have hword := wordAt_append_day h text
  have hlast : wordAt (words ++ [dateKeyword, text]) (mostWords - 1) = text := by
    rw [wordAt, List.getD_append_right _ _ _ _ (by rw [h]; decide), h]
    rfl
  have hlong : leastWords < mostWords := by decide
  rw [reading, reading, Instruction.withDate, kindOf_append_day h, length_append_day h, hlast,
    if_pos hlong, hword 1 (by decide), hword 2 (by decide)]
  cases kindOf words <;> rw [hword 5 (by decide), hword 10 (by decide)]

/-- The keyword of the day is in its place, and the other phrases are where they were. -/
lemma firstMissing?_append_day :
    firstMissing? (words ++ [dateKeyword, text]) = firstMissing? words := by
  have hleading := wordAt_append_day h text 0 (by decide)
  have hfirst : StandsAt (firstPhrase (kindOf words)) (words ++ [dateKeyword, text]) 3 ↔
      StandsAt (firstPhrase (kindOf words)) words 3 :=
    standsAt_append (by rw [h]; cases kindOf words <;> decide) _
  have hsecond : StandsAt (secondPhrase (kindOf words)) (words ++ [dateKeyword, text]) 6 ↔
      StandsAt (secondPhrase (kindOf words)) words 6 :=
    standsAt_append (by rw [h]; cases kindOf words <;> decide) _
  have hdate : StandsAt [dateKeyword] (words ++ [dateKeyword, text]) (mostWords - 2) := by
    have hmost : mostWords - 2 = words.length := h.symm
    have hkeyword : Text.upper dateKeyword = dateKeyword := by decide +kernel
    rw [StandsAt, hmost, List.drop_left]
    simp [hkeyword]
  -- Without a day the keyword is not looked for, and with one it is found.
  simp only [firstMissing?, hleading, kindOf_append_day h, hfirst, hsecond, length_append_day h,
    hdate, h, lt_irrefl, not_true_eq_false, and_false, false_and, if_false]

/-- A sentence with a day is read as the sentence without it, or turned down for the same reason. -/
theorem parse_append_day :
    parse (words ++ [dateKeyword, text]) = Instruction.withDate (some text) <$> parse words := by
  rw [parse_eq, parse_eq, length_append_day h, h, if_neg (by decide), if_neg (by decide),
    firstMissing?_append_day h, reading_append_day h]
  cases firstMissing? words <;> rfl

end Eleven

end Sentence

/-! ## The day in the stages -/

namespace Instruction

lemma screenOptionalDate_iso (day : Day) : screenOptionalDate (some day.iso) = .ok (some day) := by
  rw [screenOptionalDate_some day.iso_ne_empty, Day.read?_iso]

/-- A calendar day passes, so that the judgement fails on the rest or not at all. -/
lemma judge_withDate {i : RawInstruction} (hnone : i.date = none) (day : Day) :
    (i.withDate (some day.iso)).judge = withDate (some day) <$> i.judge := by
  have hdate : screenOptionalDate (i.withDate (some day.iso)).date =
      (fun _ => some day) <$> screenOptionalDate i.date := by
    rw [hnone]
    exact screenOptionalDate_iso day
  exact judge_map (f := id) (g := fun _ => some day) rfl rfl rfl rfl rfl hdate

lemma cover_withDate (date : Option Day) (order : Order) (accounts : List Account) :
    (order.withDate date).cover accounts = withDate date <$> order.cover accounts :=
  cover_map rfl rfl rfl accounts

end Instruction

namespace Transaction

variable {order : Order} {day today : Day}

/-- An order without a day and the same order for a day report the same transfer. -/
lemma sameTransfer_withDate (date : Option Day) (accounts : List Account) :
    (ofOrder order accounts today).SameTransfer
      (ofOrder (order.withDate date) accounts today) := by
  refine ⟨rfl, rfl, rfl, rfl, rfl, ?_⟩
  simp only [ofOrder, List.map_map]
  rfl

/-- A day that has come does not show in the report. -/
lemma ofOrder_withDate (hnone : order.date = none) (hdue : ¬ today.Precedes day)
    (accounts : List Account) :
    ofOrder (order.withDate (some day)) accounts today = ofOrder order accounts today := by
  have hafter : (order.withDate (some day)).isDue today = true := by
    rw [← Bool.not_eq_false, Instruction.isDue_eq_false_iff]
    rintro ⟨later, hlater, hprecedes⟩
    obtain rfl := Option.some.inj hlater
    exact hdue hprecedes
  have hbefore : order.isDue today = true := by rw [Instruction.isDue, hnone]
  simp only [ofOrder, hafter, hbefore, if_true]
  rfl

/-- The entries of an order that waits report what the last accounts with their ids hold. -/
lemma Settles.exists_isLast {t : Transaction} {accounts : List Account} {debit credit : Account}
    (h : t.Settles accounts debit credit) (hcode : t.code = "AP02") {e : Entry}
    (he : e ∈ t.accounts) :
    ∃ a : Account, a.id = e.id ∧ a.IsLast accounts ∧ e.balance = a.balance := by
  obtain ⟨hdebit, hcredit⟩ := h.deferred hcode e he
  rcases h.id_of_mem he with hid | hid
  · exact ⟨debit, h.debit_id.trans hid.symm, h.debit_isLast, hdebit hid⟩
  · exact ⟨credit, h.credit_id.trans hid.symm, h.credit_isLast, hcredit hid⟩

end Transaction

lemma Failure.ofRejection_withDate (r : Rejection) (date : Option String) (i : RawInstruction)
    (accounts : List Account) :
    ofRejection r (some (i.withDate date)) accounts = ofRejection r (some i) accounts :=
  rfl

/-! ## Requests with a day and without it -/

/-- The second outcome is the first one, put off to a day: a refusal stays what it is, and so does a
transaction if the day has come.  Otherwise the transaction waits for the day, and its entries
report the balances of the last accounts with their ids. -/
inductive DefersTo (accounts : List Account) (day today : Day) :
    Except Refusal Transaction → Except Refusal Transaction → Prop
  | refused (f : Failure) :
    DefersTo accounts day today (.error (.failure f)) (.error (.failure f))
  | due {t : Transaction} (hdue : ¬ today.Precedes day) :
    DefersTo accounts day today (.ok t) (.ok t)
  | later {t u : Transaction} (hlater : today.Precedes day) (hdeferred : u.IsDeferredTo day)
    (hsame : t.SameTransfer u)
    (hbalance : ∀ e ∈ u.accounts, ∃ a : Account, a.id = e.id ∧ a.IsLast accounts ∧
      e.balance = a.balance) :
    DefersTo accounts day today (.ok t) (.ok u)

namespace Request

/-- The second request has the accounts of the first, whose text has eleven words, and a day behind
these. -/
structure IsDatedAs (first second : Request) (day : Day) : Prop where
  accounts : second.accounts = first.accounts
  words : Text.words second.text = Text.words first.text ++ [Sentence.dateKeyword, day.iso]
  eleven : (Text.words first.text).length = Sentence.leastWords

namespace IsDatedAs

variable {first second : Request} {day today : Day}

lemma instruction (h : first.IsDatedAs second day) :
    second.instruction = first.instruction.withDate (some day.iso) := by
  rw [Request.instruction, Request.instruction, h.words, Sentence.reading_append_day h.eleven,
    Instruction.mapAmount_withDate]

lemma parallels (h : first.IsDatedAs second day) : first.Parallels second := by
  refine ⟨h.accounts, ?_, ?_, Instruction.withDate (some day.iso), ?_⟩
  · rw [h.instruction]
    rfl
  · rw [h.instruction]
    rfl
  · rw [Sentence.read, Sentence.read, h.words, Sentence.parse_append_day h.eleven]

/-- Eleven words give no day. -/
lemma date_eq_none (h : first.IsDatedAs second day) : first.instruction.date = none := by
  simp only [Request.instruction, Instruction.mapAmount, Sentence.reading, h.eleven, lt_irrefl,
    if_false]

lemma order_date_eq_none (h : first.IsDatedAs second day) {order : Order}
    (horder : first.judge = .ok order) : order.date = none := by
  have hdate := (comesTo_of_judge horder).passes.date
  rw [h.date_eq_none, screenOptionalDate] at hdate
  exact (Except.ok.inj hdate).symm

/-- Both requests come to the same order but for its day, or are turned down for the same reason. -/
lemma judge (h : first.IsDatedAs second day) :
    second.judge = Instruction.withDate (some day) <$> first.judge := by
  refine h.parallels.judge ?_ (Instruction.cover_withDate (some day))
  rw [h.instruction, Instruction.judge_withDate h.date_eq_none]

/-- No failure shows the day. -/
lemma failure (h : first.IsDatedAs second day) (r : Rejection) :
    second.failure r = first.failure r := by
  rw [Request.failure, Request.failure, h.instruction, h.parallels.involved,
    Failure.ofRejection_withDate]

/-- Two transactions of an order that comes to both requests. -/
lemma defersTo_of_order (h : first.IsDatedAs second day) {order : Order}
    (horder : first.judge = .ok order) (hdated : second.judge = .ok (order.withDate (some day))) :
    DefersTo first.accounts day today (.ok (.ofOrder order first.involved today))
      (.ok (.ofOrder (order.withDate (some day)) first.involved today)) := by
  by_cases hlater : today.Precedes day
  · have hwaits : (order.withDate (some day)).isDue today = false :=
      Instruction.isDue_eq_false_iff.mpr ⟨day, rfl, hlater⟩
    have hdeferred : (Transaction.ofOrder (order.withDate (some day)) first.involved
        today).IsDeferredTo day := Transaction.isDeferredTo_ofOrder hwaits rfl
    obtain ⟨debit, credit, hsettles⟩ :=
      Transaction.exists_settles (comesTo_of_judge hdated) today
    rw [h.parallels.involved, h.accounts] at hsettles
    exact .later hlater hdeferred (Transaction.sameTransfer_withDate _ _)
      fun e he => hsettles.exists_isLast hdeferred.code he
  · rw [Transaction.ofOrder_withDate (h.order_date_eq_none horder) hlater]
    exact .due hlater

lemma defersTo (h : first.IsDatedAs second day) (today : Day) :
    DefersTo first.accounts day today (clear first today).outcome
      (clear second today).outcome := by
  have hjudge := h.judge
  cases hfirst : first.judge with
  | error r =>
    rw [hfirst] at hjudge
    rw [outcome_eq_error_iff.mpr ⟨r, hfirst, rfl⟩, outcome_eq_error_iff.mpr ⟨r, hjudge, rfl⟩,
      h.failure]
    exact .refused _
  | ok order =>
    rw [hfirst] at hjudge
    rw [outcome_eq_ok_iff.mpr ⟨order, hfirst, rfl⟩, outcome_eq_ok_iff.mpr ⟨_, hjudge, rfl⟩,
      h.parallels.involved]
    exact h.defersTo_of_order hfirst hjudge

end IsDatedAs

end Request

/-! ## Texts of eleven words -/

section Dated

variable {text : String} (hwords : (Text.words (Text.trim text)).length = Sentence.leastWords)

include hwords

lemma trim_ne_empty_of_words : Text.trim text ≠ "" := by
  intro hempty
  rw [hempty] at hwords
  exact absurd hwords (by decide +kernel)

lemma isDatedAs_dated (accounts : List Account) (day : Day) :
    Request.IsDatedAs ⟨accounts, Text.trim text⟩
      ⟨accounts, Text.trim (Sentence.dated text day)⟩ day := by
  refine ⟨rfl, ?_, hwords⟩
  rw [Sentence.trim_dated (trim_ne_empty_of_words hwords)]
  exact Sentence.words_dated text day

/-- To put a day behind eleven words defers what they say and changes nothing else, for every list
of accounts and for every payload whose accounts are of the schema. -/
theorem clear_dated (day today : Day) :
    (∀ accounts : List Account, DefersTo accounts day today
      (clear ⟨accounts, Text.trim text⟩ today).outcome
      (clear ⟨accounts, Text.trim (Sentence.dated text day)⟩ today).outcome) ∧
    ∀ (payload : Json) (accounts : List Account),
      Json.checkList (Account.check .direct) payload = .ok accounts →
      DefersTo accounts day today (clearPayload (payload.request text) today).outcome
        (clearPayload (payload.request (Sentence.dated text day)) today).outcome := by
  have hne := trim_ne_empty_of_words hwords
  have hdated : Text.trim (Sentence.dated text day) ≠ "" := by
    rw [Sentence.trim_dated hne, Sentence.dated]
    exact fun hempty => day.iso_ne_empty (String.append_eq_empty_iff.mp hempty).2
  have hclear : ∀ accounts : List Account, DefersTo accounts day today
      (clear ⟨accounts, Text.trim text⟩ today).outcome
      (clear ⟨accounts, Text.trim (Sentence.dated text day)⟩ today).outcome :=
    fun accounts => (isDatedAs_dated hwords accounts day).defersTo today
  refine ⟨hclear, fun payload accounts haccounts => ?_⟩
  rw [clearPayload, clearPayload, Request.check_request_of_ok haccounts hne,
    Request.check_request_of_ok haccounts hdated]
  exact hclear accounts

end Dated

/-- The payload of three accounts in pounds, of which the last two have one id. -/
def poundAccounts : Json :=
  .array [
    .object [("id", .string "b"), ("balance", .integer 0), ("currency", .string "GBP")],
    .object [("id", .string "a"), ("balance", .integer 1), ("currency", .string "GBP")],
    .object [("id", .string "a"), ("balance", .integer 7), ("currency", .string "GBP")]]

/-- A transfer in the credit form that gives no day, between blanks. -/
def poundTransfer : String :=
  "\tCredit 5 gbp to account b for debit from account a "

/-- The transfer is carried out at once and, with the leap day behind it, waits on the eve of it. -/
theorem clear_dated_leapDay :
    (Text.words (Text.trim poundTransfer)).length = Sentence.leastWords ∧
      Json.checkList (Account.check .direct) poundAccounts =
        .ok [⟨"b", 0, "GBP"⟩, ⟨"a", 1, "GBP"⟩, ⟨"a", 7, "GBP"⟩] ∧
      DefersTo [⟨"b", 0, "GBP"⟩, ⟨"a", 1, "GBP"⟩, ⟨"a", 7, "GBP"⟩]
        ⟨2028, 2, 29, by decide⟩ ⟨2028, 2, 28, by decide⟩
        (clearPayload (poundAccounts.request poundTransfer) ⟨2028, 2, 28, by decide⟩).outcome
        (clearPayload (poundAccounts.request
          (Sentence.dated poundTransfer ⟨2028, 2, 29, by decide⟩))
          ⟨2028, 2, 28, by decide⟩).outcome ∧
      ((clearPayload (poundAccounts.request poundTransfer)
          ⟨2028, 2, 28, by decide⟩).outcome.toOption.map (·.code),
        (clearPayload (poundAccounts.request
          (Sentence.dated poundTransfer ⟨2028, 2, 29, by decide⟩))
          ⟨2028, 2, 28, by decide⟩).outcome.toOption.map (·.code)) =
        (some "AP00", some "AP02") := by
  have hwords : (Text.words (Text.trim poundTransfer)).length = Sentence.leastWords := by
    decide +kernel
  have haccounts : Json.checkList (Account.check .direct) poundAccounts =
      .ok [⟨"b", 0, "GBP"⟩, ⟨"a", 1, "GBP"⟩, ⟨"a", 7, "GBP"⟩] := by
    decide +kernel
  obtain ⟨_, hpayload⟩ :=
    clear_dated hwords ⟨2028, 2, 29, by decide⟩ ⟨2028, 2, 28, by decide⟩
  exact ⟨hwords, haccounts, hpayload _ _ haccounts, by decide +kernel⟩

end Remittance
