import Remittance.Proofs.Judgement

/-!
# What a failure reports

A request may be turned down at five places, each of which makes the context of the failure from
the data at hand: none, the instruction as written, or the order that it became, with or without
accounts.  `Failure.FaithfulTo` says what the context shows in terms of the request alone, and
`clear_failure_faithful` that it does so wherever the request was turned down.

`Request.judge_eq_error` tells the places apart.  The status code of a rejection already decides
between the text, the search for the accounts, and everything later.
-/

namespace Remittance

open Requirement

/-! ## Where a request is turned down -/

/-- The code of a rejection that comes after the accounts were found. -/
def StatusCode.IsLate (code : StatusCode) : Prop :=
  code ≠ .missingKeyword ∧ code ≠ .malformedInstruction ∧ code ≠ .accountNotFound

lemma FirstUnmet.isLate {rs : List Requirement} {code : StatusCode} (h : FirstUnmet rs code)
    (hcodes : ∀ c ∈ rs.map Requirement.code, c.IsLate) : code.IsLate :=
  hcodes code h.code_mem

/-- A request is turned down because of its text, because an account was not found, or later. -/
lemma Request.judge_eq_error {request : Request} {r : Rejection}
    (h : request.judge = .error r) :
    Sentence.read request.text = .error r ∨
      ∃ i, Sentence.read request.text = .ok i ∧ i = Sentence.reading (Text.words request.text) ∧
        (resolve request.accounts request.instruction = .error r ∨
          (∃ a ∈ request.accounts, a.id = request.instruction.debit) ∧ r.code.IsLate) := by
  rcases bind_eq_error_iff.mp h with hread | ⟨i, hread, h⟩
  · exact .inl hread
  refine .inr ⟨i, hread, Sentence.eq_reading_of_parse hread, ?_⟩
  rcases bind_eq_error_iff.mp h with hresolve | ⟨involved, hresolve, h⟩
  · exact .inl hresolve
  refine .inr ⟨((resolve_eq_ok_iff _ _).mp hresolve).1, ?_⟩
  rcases bind_eq_error_iff.mp h with hjudge | ⟨order, _, h⟩
  · refine FirstUnmet.isLate ((Instruction.decides_judge _).firstUnmet hjudge) ?_
    simp [instructionRequirements, StatusCode.IsLate]
  rcases bind_eq_error_iff.mp h with haccounts | ⟨_, _, hcover⟩
  · refine FirstUnmet.isLate ((decides_screenAccounts _).firstUnmet haccounts) ?_
    simp [involvedRequirements, StatusCode.IsLate]
  · refine FirstUnmet.isLate ((decides_cover _ _).firstUnmet hcover) ?_
    simp [coverRequirements, StatusCode.IsLate]

/-! ## What a context shows -/

namespace FailureContext

/-- The context says nothing about an instruction. -/
structure IsBlank (c : FailureContext) : Prop where
  kind : c.kind = none
  amount : c.amount = none
  currency : c.currency = none
  debit : c.debit = none
  credit : c.credit = none

/-- The context shows an instruction as it was read. -/
structure Shows (c : FailureContext) (i : Instruction Number String) : Prop where
  kind : c.kind = some i.kind.keyword
  currency : c.currency = some i.currency
  debit : c.debit = some i.debit
  credit : c.credit = some i.credit
  /-- An amount that is shown is the one that was read, -/
  amount_eq : ∀ n, c.amount = some n → n = i.amount
  /-- and only a number that is undefined or infinite is not shown. -/
  amount_eq_none_iff : c.amount = none ↔
    i.amount = .binary .nan ∨ ∃ negative, i.amount = .binary (.infinite negative)

end FailureContext

/-- The failure shows what the text and the accounts of the request say, as far as its code tells
that they were looked at. -/
structure Failure.FaithfulTo (f : Failure) (request : Request) : Prop where
  executeBy : f.context.executeBy = none
  /-- A text that is no sentence shows nothing. -/
  unread : f.code = .missingKeyword ∨ f.code = .malformedInstruction → f.context.IsBlank
  /-- Any other text was read, and its words are shown. -/
  read : f.code ≠ .missingKeyword → f.code ≠ .malformedInstruction →
    ∃ i, Sentence.read request.text = .ok i ∧ f.context.Shows i ∧
      i.amount = Number.capture (Sentence.wordAt (Text.words request.text) 1) ∧
      i.currency = Text.upper (Sentence.wordAt (Text.words request.text) 2) ∧
      (f.code ≠ .accountNotFound →
        f.context.accounts =
          (request.accounts.filter fun a => a.id == i.debit || a.id == i.credit).map
            fun a => ⟨a.id, a.balance, a.balance, a.currency⟩)
  accounts_eq_nil_iff : f.context.accounts = [] ↔
    f.code = .missingKeyword ∨ f.code = .malformedInstruction ∨ f.code = .accountNotFound

/-! ## The contexts of rejections -/

lemma isSyntactic_eq_true_iff {code : StatusCode} :
    code.isSyntactic = true ↔ code = .missingKeyword ∨ code = .malformedInstruction := by
  cases code <;> simp [StatusCode.isSyntactic]

lemma reported_number (n : Number) :
    (∀ m, (Scalar.number n).reported = some m → m = n) ∧
      ((Scalar.number n).reported = none ↔
        n = .binary .nan ∨ ∃ negative, n = .binary (.infinite negative)) := by
  cases n with
  | whole k => simp [Scalar.reported, Number.isFinite, eq_comm]
  | binary x =>
    cases x <;> simp [Scalar.reported, Number.isFinite, Numeral.Binary64.isFinite, eq_comm]

section Context

variable {request : Request} {r : Rejection}

lemma context_of_syntactic (h : r.code.isSyntactic = true) :
    (request.failure r).context = .bare r.code r.message := by
  simp only [Request.failure, Failure.ofRejection, Failure.describe, FailureContext.describe]
  rw [if_pos h]

lemma context_of_not_syntactic (h : ¬ r.code.isSyntactic = true) :
    (request.failure r).context =
      .ofInstruction r.code r.message request.instruction
        (if r.code = .accountNotFound then [] else request.involved) := by
  simp only [Request.failure, Failure.ofRejection, Failure.describe, FailureContext.describe]
  rw [if_neg h]

/-- The context of an instruction shows the sentence that it was read from. -/
lemma shows_ofInstruction (code : StatusCode) (reason : String) (i : Instruction Number String)
    (accounts : List Account) :
    (FailureContext.ofInstruction code reason (i.mapAmount Scalar.number) accounts).Shows i := by
  obtain ⟨hsome, hnone⟩ := reported_number i.amount
  exact ⟨rfl, rfl, rfl, rfl, hsome, hnone⟩

/-- A request whose text is no sentence. -/
lemma faithful_of_syntactic (h : r.code.isSyntactic = true) :
    (request.failure r).FaithfulTo request := by
  have hcode := isSyntactic_eq_true_iff.mp h
  have hcontext : (request.failure r).context = .bare r.code r.message := context_of_syntactic h
  refine ⟨?_, fun _ => ?_, fun hne hne' => ?_, ?_⟩
  · rw [hcontext]
    rfl
  · rw [hcontext]
    exact ⟨rfl, rfl, rfl, rfl, rfl⟩
  · rcases hcode with hcode | hcode
    · exact absurd hcode hne
    · exact absurd hcode hne'
  · rw [hcontext]
    exact iff_of_true rfl (hcode.imp_right .inl)

/-- A request whose text was read. -/
lemma faithful_of_read {i : Instruction Number String} (hread : Sentence.read request.text = .ok i)
    (hreading : i = Sentence.reading (Text.words request.text))
    (h : r.code = .accountNotFound ∨
      (∃ a ∈ request.accounts, a.id = request.instruction.debit) ∧ r.code.IsLate) :
    (request.failure r).FaithfulTo request := by
  have hsyntactic : ¬ r.code.isSyntactic = true := by
    rw [isSyntactic_eq_true_iff]
    rcases h with h | ⟨_, hkeyword, hmalformed, _⟩
    · simp [h]
    · exact not_or.mpr ⟨hkeyword, hmalformed⟩
  have hcontext : (request.failure r).context =
      .ofInstruction r.code r.message request.instruction
        (if r.code = .accountNotFound then [] else request.involved) :=
    context_of_not_syntactic hsyntactic
  subst hreading
  refine ⟨?_, fun hcode => absurd (isSyntactic_eq_true_iff.mpr hcode) hsyntactic, fun _ _ => ?_, ?_⟩
  · rw [hcontext]
    rfl
  · rw [hcontext]
    refine ⟨_, hread, shows_ofInstruction _ _ _ _, Sentence.amount_reading _,
      Sentence.currency_reading _, fun hfound => ?_⟩
    have hfound : r.code ≠ .accountNotFound := hfound
    rw [if_neg hfound]
    rfl
  · rw [hcontext]
    rcases h with hcode | ⟨⟨a, ha, hid⟩, hkeyword, hmalformed, hfound⟩
    · rw [if_pos hcode]
      exact iff_of_true rfl (.inr (.inr hcode))
    · -- The debit account is among the entries.
      have hmem : a ∈ request.involved := Account.mem_withEither.mpr ⟨ha, .inl hid⟩
      rw [if_neg hfound]
      refine iff_of_false (fun hnil => ?_) ?_
      · have hnone : request.involved = [] := List.map_eq_nil_iff.mp hnil
        rw [hnone] at hmem
        cases hmem
      · rintro (h | h | h)
        exacts [hkeyword h, hmalformed h, hfound h]

end Context

/-- Every failure shows what the request says, wherever it was turned down. -/
theorem clear_failure_faithful {request : Request} {today : Day} {f : Failure}
    (h : (clear request today).outcome = .error (.failure f)) : f.FaithfulTo request := by
  obtain ⟨r, hjudge, hf⟩ := outcome_eq_error_iff.mp h
  obtain rfl := Refusal.failure.inj hf
  rcases Request.judge_eq_error hjudge with hread | ⟨i, hread, hreading, hresolve | hlate⟩
  · refine faithful_of_syntactic (isSyntactic_eq_true_iff.mpr ?_)
    exact (code_of_parse hread).symm
  · exact faithful_of_read hread hreading (.inl (code_of_resolve hresolve))
  · exact faithful_of_read hread hreading (.inr hlate)

/-- A transfer in the credit form of more than the second of two accounts with one id holds. -/
def shortOfFunds : Request where
  accounts := [⟨"b", 7, "USD"⟩, ⟨"x", 1, "EUR"⟩, ⟨"a", 40, "USD"⟩, ⟨"a", 30, "USD"⟩]
  text := "credit 0x20 usd to account b for debit from account a"

theorem clear_failure_faithful_shortOfFunds :
    ∃ f, (clear shortOfFunds ⟨2026, 1, 1, by decide⟩).outcome = .error (.failure f) ∧
      f.FaithfulTo shortOfFunds ∧ f.code = .insufficientFunds ∧
      f.context.amount = some (.whole 32) ∧
      f.context.accounts =
        [⟨"b", 7, 7, "USD"⟩, ⟨"a", 40, 40, "USD"⟩, ⟨"a", 30, 30, "USD"⟩] := by
  have hjudge : shortOfFunds.judge = .error (.insufficientFunds "a") := by decide +kernel
  have houtcome : (clear shortOfFunds ⟨2026, 1, 1, by decide⟩).outcome =
      .error (.failure (shortOfFunds.failure (.insufficientFunds "a"))) :=
    outcome_eq_error_iff.mpr ⟨_, hjudge, rfl⟩
  exact ⟨_, houtcome, clear_failure_faithful houtcome, rfl, by decide +kernel, by decide +kernel⟩

end Remittance
