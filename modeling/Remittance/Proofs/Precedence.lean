import Remittance.Proofs.Acceptance
import Remittance.Proofs.Judgement

/-!
# The order of the checks

`Request.requirements` lists what a request has to meet, in terms of its text and its accounts and
in the order in which it is checked.  `clear_decided_by_requirements` says that this list decides the
outcome.

The stages check a little more than the list says.  The ids of the accounts are checked again after
those of the instruction, and currencies are put in upper case once more; neither can make a
difference for a request that was accepted.  The empty text counts as no day, but a word of a
sentence is never empty.
-/

namespace Remittance

open Requirement

/-! ## Words are not empty -/

namespace Text

lemma mem_close {word : List Char} {later : List (List Char)} {w : List Char}
    (h : w ∈ close word later) : (w = word ∧ word ≠ []) ∨ w ∈ later := by
  cases word with
  | nil => exact .inr h
  | cons c cs =>
    rcases List.mem_cons.mp h with rfl | h
    · exact .inl ⟨rfl, List.cons_ne_nil c cs⟩
    · exact .inr h

lemma ne_nil_of_mem_scanWords {cs w : List Char} (h : w ∈ (scanWords cs).2) : w ≠ [] := by
  induction cs with
  | nil => cases h
  | cons c cs ih =>
    rw [scanWords] at h
    dsimp only at h
    split at h
    · rcases mem_close h with ⟨rfl, hne⟩ | h
      · exact hne
      · exact ih h
    · exact ih h

lemma ne_empty_of_mem_words {s word : String} (h : word ∈ words s) : word ≠ "" := by
  obtain ⟨w, hw, rfl⟩ := List.mem_map.mp h
  have hne : w ≠ [] := by
    rcases mem_close hw with ⟨rfl, hne⟩ | hw
    · exact hne
    · exact ne_nil_of_mem_scanWords hw
  exact fun hempty => hne (String.ofList_eq_empty_iff.mp hempty)

end Text

lemma Sentence.reading_date_mem (words : List String) {date : String}
    (h : (reading words).date = some date) : date ∈ words := by
  rw [reading] at h
  dsimp only at h
  split at h
  next hlong =>
    obtain rfl := Option.some.inj h
    have hlast : words.length - 1 < words.length := by omega
    rw [wordAt, List.getD_eq_getElem?_getD, List.getElem?_eq_getElem hlast, Option.getD_some]
    exact List.getElem_mem hlast
  · cases h

lemma Request.instruction_date_ne_empty {request : Request} {date : String}
    (h : request.instruction.date = some date) : date ≠ "" := by
  have hmem := Sentence.reading_date_mem (Text.words request.text) h
  exact Text.ne_empty_of_mem_words hmem

/-! ## The requirements -/

/-- What a request has to meet, in the order in which it is checked. -/
def Request.requirements (request : Request) : List Requirement :=
  let words := Text.words request.text
  let i := request.instruction
  let accounts := request.accounts
  [⟨Sentence.leastWords ≤ words.length ∧ words.length ≤ Sentence.mostWords,
      .malformedInstruction⟩,
    ⟨Sentence.KeywordsInPlace words, .missingKeyword⟩,
    ⟨∃ a ∈ accounts, a.id = i.debit, .accountNotFound⟩,
    ⟨∃ a ∈ accounts, a.id = i.credit, .accountNotFound⟩,
    ⟨IsAccountId i.debit, .invalidAccountId⟩,
    ⟨IsAccountId i.credit, .invalidAccountId⟩,
    ⟨i.debit ≠ i.credit, .sameAccount⟩,
    ⟨∃ n : Int, 1 ≤ n ∧ i.amount = .whole n, .invalidAmount⟩,
    ⟨i.currency ∈ supportedCurrencies, .unsupportedCurrency⟩,
    ⟨∀ date, i.date = some date → ∃ day, Day.read? date = some day, .invalidDate⟩,
    ⟨∀ a ∈ request.involved, a.currency ∈ supportedCurrencies, .unsupportedCurrency⟩,
    ⟨∀ a ∈ request.involved, ∀ b ∈ request.involved, a.currency = b.currency, .currencyMismatch⟩,
    ⟨∀ a ∈ request.involved, a.currency = i.currency, .currencyMismatch⟩,
    ⟨∃ a : Account, a.id = i.debit ∧ a.IsLast accounts ∧ ∃ n : Int, i.amount = .whole n ∧ n ≤ a.balance,
      .insufficientFunds⟩]

section Stages

variable (request : Request)

lemma isDateOrNone_instruction :
    IsDateOrNone request.instruction.date ↔
      ∀ date, request.instruction.date = some date → ∃ day, Day.read? date = some day := by
  constructor
  · intro h date hdate
    exact h date hdate (Request.instruction_date_ne_empty hdate)
  · intro h date hdate _
    exact h date hdate

lemma decides_judge_instruction :
    Decides
      [⟨IsAccountId request.instruction.debit, .invalidAccountId⟩,
        ⟨IsAccountId request.instruction.credit, .invalidAccountId⟩,
        ⟨request.instruction.debit ≠ request.instruction.credit, .sameAccount⟩,
        ⟨∃ n : Int, 1 ≤ n ∧ request.instruction.amount = .whole n, .invalidAmount⟩,
        ⟨request.instruction.currency ∈ supportedCurrencies, .unsupportedCurrency⟩,
        ⟨∀ date, request.instruction.date = some date → ∃ day, Day.read? date = some day,
          .invalidDate⟩]
      request.instruction.judge := by
  have h := Instruction.decides_judge request.instruction
  rw [instructionRequirements, request.upper_instruction_currency,
    isDateOrNone_instruction request] at h
  exact h

variable {request}

/-- The accounts of an accepted request, whose ids are those of a screened instruction. -/
lemma decides_screenAccounts_involved (haccepted : request.Accepted)
    (hdebit : IsAccountId request.instruction.debit)
    (hcredit : IsAccountId request.instruction.credit) :
    Decides
      [⟨∀ a ∈ request.involved, a.currency ∈ supportedCurrencies, .unsupportedCurrency⟩,
        ⟨∀ a ∈ request.involved, ∀ b ∈ request.involved, a.currency = b.currency,
          .currencyMismatch⟩]
      (screenAccounts request.involved) := by
  have hids : ∀ a ∈ request.involved, IsAccountId a.id := fun _ ha =>
    isAccountId_of_mem_withEither hdebit hcredit ha
  have hupper : (∀ a ∈ request.involved, Text.upper a.currency ∈ supportedCurrencies) ↔
      ∀ a ∈ request.involved, a.currency ∈ supportedCurrencies := by
    refine forall₂_congr fun a ha => ?_
    rw [haccepted.upper_currency (Account.mem_withEither.mp ha).1]
  have h := (decides_screenAccounts request.involved).of_cons hids
  rw [hupper] at h
  exact h

/-- The order of a screened instruction, whose debit account is there. -/
lemma decides_cover_involved {order : Order} (hpasses : request.instruction.PassesAs order)
    (hdebit : ∃ a ∈ request.accounts, a.id = request.instruction.debit) :
    Decides
      [⟨∀ a ∈ request.involved, a.currency = request.instruction.currency, .currencyMismatch⟩,
        ⟨∃ a : Account, a.id = request.instruction.debit ∧ a.IsLast request.accounts ∧
          ∃ n : Int, request.instruction.amount = .whole n ∧ n ≤ a.balance, .insufficientFunds⟩]
      (order.cover request.involved) := by
  obtain ⟨debit, hlast⟩ := Account.exists_lastWith? hdebit
  have hbalance : (Balances.ofAccounts request.involved).get order.debit = debit.balance := by
    apply Balances.get_ofAccounts
    rw [hpasses.debit, Request.involved, Account.lastWith?_withEither (.inl rfl), hlast]
  have hfunds : order.amount ≤ (Balances.ofAccounts request.involved).get order.debit ↔
      ∃ a : Account, a.id = request.instruction.debit ∧ a.IsLast request.accounts ∧
        ∃ n : Int, request.instruction.amount = .whole n ∧ n ≤ a.balance := by
    rw [hbalance]
    constructor
    · intro hle
      obtain ⟨hid, hplace⟩ := Account.lastWith?_eq_some_iff.mp hlast
      exact ⟨debit, hid, hplace, order.amount, hpasses.amount, hle⟩
    · rintro ⟨a, hid, hplace, n, hamount, hle⟩
      have ha := Account.lastWith?_eq_some_iff.mpr ⟨hid, hplace⟩
      rw [hlast] at ha
      obtain rfl := Option.some.inj ha
      rw [hpasses.amount] at hamount
      cases hamount
      exact hle
  have h := decides_cover order request.involved
  rw [coverRequirements, hfunds, hpasses.currency, request.upper_instruction_currency] at h
  exact h

end Stages

theorem Request.decides_judge {request : Request} (haccepted : request.Accepted) :
    Decides request.requirements request.judge := by
  unfold requirements judge
  refine decides_append (Sentence.decides_parse (Text.words request.text)) fun _ _ => ?_
  refine decides_append (decides_resolve request.accounts request.instruction)
    fun _ hresolve => ?_
  have hdebit := ((resolve_eq_ok_iff _ _).mp hresolve).1
  refine decides_append (decides_judge_instruction request) fun order hjudge => ?_
  have hpasses := Instruction.passesAs_of_judge hjudge
  refine decides_append (decides_screenAccounts_involved haccepted hpasses.isAccountId_debit
    hpasses.isAccountId_credit) fun _ _ => ?_
  exact decides_cover_involved hpasses hdebit

/-! ## The outcome -/

/-- The code of a failure is that of the first requirement that is not met. -/
lemma exists_failure_iff {request : Request} (haccepted : request.Accepted) (today : Day)
    {code : StatusCode} :
    (∃ f, (clear request today).outcome = .error (.failure f) ∧ f.code = code) ↔
      FirstUnmet request.requirements code := by
  have hdecides := Request.decides_judge haccepted
  constructor
  · rintro ⟨f, hf, rfl⟩
    obtain ⟨r, hjudge, hfailure⟩ := outcome_eq_error_iff.mp hf
    obtain rfl := Refusal.failure.inj hfailure
    exact hdecides.firstUnmet hjudge
  · intro hunmet
    cases hjudge : request.judge with
    | ok order => exact absurd (hdecides.allMet hjudge) hunmet.not_allMet
    | error r =>
      exact ⟨request.failure r, outcome_eq_error_iff.mpr ⟨r, hjudge, rfl⟩,
        (hdecides.firstUnmet hjudge).unique hunmet⟩

/-- An accepted request comes to a transaction if all its requirements are met, and otherwise it is
turned down with the code of the first that is not. -/
theorem clear_decided_by_requirements {request : Request} (haccepted : request.Accepted)
    (today : Day) :
    ((∃ t, (clear request today).outcome = .ok t) ↔ AllMet request.requirements) ∧
      (¬ AllMet request.requirements →
        ∃ f, (clear request today).outcome = .error (.failure f) ∧
          FirstUnmet request.requirements f.code) := by
  have hdecides := Request.decides_judge haccepted
  rw [clear_eq]
  cases hjudge : request.judge with
  | ok order =>
    have hmet := hdecides.allMet hjudge
    exact ⟨⟨fun _ => hmet, fun _ => ⟨_, rfl⟩⟩, fun hunmet => absurd hmet hunmet⟩
  | error r =>
    have hunmet := hdecides.firstUnmet hjudge
    refine ⟨⟨?_, fun hmet => absurd hmet hunmet.not_allMet⟩, fun _ => ?_⟩
    · rintro ⟨t, ht⟩
      cases ht
    · exact ⟨request.failure r, rfl, hunmet⟩

/-- A transfer of an amount that the debit account does not hold, in a currency that is not
supported. -/
def overdrawn : Request where
  accounts := [⟨"a", 10, "EUR"⟩, ⟨"b", 0, "EUR"⟩]
  text := "DEBIT 20 EUR FROM ACCOUNT a FOR CREDIT TO ACCOUNT b"

theorem clear_decided_by_requirements_overdrawn :
    overdrawn.Accepted ∧ ¬ AllMet overdrawn.requirements ∧
      ∃ f, (clear overdrawn ⟨2026, 1, 1, by decide⟩).outcome = .error (.failure f) ∧
        FirstUnmet overdrawn.requirements f.code := by
  have haccepted : overdrawn.Accepted := ⟨.direct, overdrawn.payload, rfl⟩
  obtain ⟨hok, herror⟩ := clear_decided_by_requirements haccepted ⟨2026, 1, 1, by decide⟩
  have hunmet : ¬ AllMet overdrawn.requirements := by
    intro hmet
    obtain ⟨t, ht⟩ := hok.mpr hmet
    have hnone : (clear overdrawn ⟨2026, 1, 1, by decide⟩).outcome.toOption = none := by
      decide +kernel
    rw [ht] at hnone
    cases hnone
  exact ⟨haccepted, hunmet, herror hunmet⟩

end Remittance
