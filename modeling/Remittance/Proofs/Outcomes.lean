import Remittance.Proofs.Conformance
import Remittance.Proofs.Conversions
import Remittance.Proofs.Judgement

/-!
# What a payload comes to

Whatever it is given, the clearing ends in one of three ways: a transaction with one of two codes,
violations of the schema, or a failure with one of the ten other codes.  `Json.ComesTo` says when
each of them is in place, and leaves none for a fault of the settlement.

`clearPayload_comesTo` is the theorem.  Its second half is about the stages: a payload that does not
conform reaches none of them, and what reaches the last two is such that the ids of the accounts
pass once more and the settlement finds every account that it looks for.  No conversion between
words and numbers fails on the way.
-/

namespace Remittance

open Numeral Requirement

/-! ## Outcomes -/

/-- The status codes of failures. -/
def StatusCode.failures : List StatusCode :=
  [.invalidAmount, .currencyMismatch, .unsupportedCurrency, .insufficientFunds, .sameAccount,
    .accountNotFound, .invalidAccountId, .invalidDate, .missingKeyword, .malformedInstruction]

/-- The failure has a code of its own kind, and its context repeats the code and the message. -/
structure Failure.IsConsistent (f : Failure) : Prop where
  code : f.code ∈ StatusCode.failures
  contextCode : f.context.code = f.code.code
  reason : f.context.reason = f.message
  status : f.context.status = .failed

/-- What a payload may come to. -/
def Json.ComesTo (payload : Json) : Except Refusal Transaction → Prop
  | .ok t => payload.Conforms ∧
      (t.code = StatusCode.transactionSuccessful.code ∨
        t.code = StatusCode.transactionPending.code)
  | .error (.violations found) => ¬payload.Conforms ∧ found ≠ []
  | .error (.failure f) => payload.Conforms ∧ f.IsConsistent
  | .error (.fault _) => False

lemma Rejection.code_mem_failures (r : Rejection) : r.code ∈ StatusCode.failures := by
  cases r <;> simp [Rejection.code, StatusCode.failures]

lemma Failure.isConsistent_ofRejection {δ : Type} (r : Rejection)
    (instruction : Option (Instruction Scalar δ)) (accounts : List Account) :
    (ofRejection r instruction accounts).IsConsistent := by
  have hcontext : (ofRejection r instruction accounts).context.code = r.code.code ∧
      (ofRejection r instruction accounts).context.reason = r.message ∧
      (ofRejection r instruction accounts).context.status = .failed := by
    rw [ofRejection, describe]
    unfold FailureContext.describe
    cases instruction with
    | none => exact ⟨rfl, rfl, rfl⟩
    | some i => by_cases h : r.code.isSyntactic = true <;> simp only [h] <;> exact ⟨rfl, rfl, rfl⟩
  exact ⟨r.code_mem_failures, hcontext.1, hcontext.2.1, hcontext.2.2⟩

lemma Transaction.code_ofOrder (order : Order) (accounts : List Account) (today : Day) :
    (ofOrder order accounts today).code = StatusCode.transactionSuccessful.code ∨
      (ofOrder order accounts today).code = StatusCode.transactionPending.code := by
  cases h : order.isDue today <;> simp [ofOrder, h]

lemma clearPayload_of_describes {payload : Json} {request : Request}
    (h : payload.DescribesRequest request) (today : Day) :
    clearPayload payload today = clear request today := by
  rw [clearPayload, Request.check_eq_ok_iff_describes.mpr h]

lemma clearPayload_of_not_conforms {payload : Json} (h : ¬payload.Conforms) (today : Day) :
    ∃ found, found ≠ [] ∧ clearPayload payload today = .refuse [] (.violations found) := by
  obtain ⟨found, hfound⟩ := Request.exists_check_eq_error_iff.mpr h
  refine ⟨found, ?_, by rw [clearPayload, hfound]⟩
  rintro rfl
  exact Request.check_ne_error_nil .direct payload hfound

lemma comesTo_clearPayload (payload : Json) (today : Day) :
    payload.ComesTo (clearPayload payload today).outcome := by
  by_cases hconforms : payload.Conforms
  · obtain ⟨request, hdescribes⟩ := id hconforms
    rw [clearPayload_of_describes hdescribes]
    cases houtcome : (clear request today).outcome with
    | ok t =>
      obtain ⟨order, _, rfl⟩ := outcome_eq_ok_iff.mp houtcome
      exact ⟨hconforms, Transaction.code_ofOrder order _ today⟩
    | error e =>
      obtain ⟨r, _, rfl⟩ := outcome_eq_error_iff.mp houtcome
      exact ⟨hconforms, Failure.isConsistent_ofRejection r _ _⟩
  · obtain ⟨found, hne, h⟩ := clearPayload_of_not_conforms hconforms today
    rw [h]
    exact ⟨hconforms, hne⟩

/-! ## Stages -/

/-- The order and the accounts with which a request reaches the stages that work on both. -/
def Request.Reaches (request : Request) (order : Order) (involved : List Account) : Prop :=
  ∃ i, Sentence.read request.text = .ok i ∧
    resolve request.accounts (i.mapAmount Scalar.number) = .ok involved ∧
    (i.mapAmount Scalar.number).screen = .ok order

/-- The later stages meet none of the conditions that they look for in vain. -/
structure StagesSucceed (order : Order) (involved : List Account) (today : Day) : Prop where
  /-- The ids of the accounts pass. -/
  ids : ∀ a ∈ involved, screenId a.id = .ok a.id
  /-- No account is turned down because of its id. -/
  screening : ∀ r, screenAccounts involved = .error r → r.code ≠ .invalidAccountId
  /-- There is a first account, the debit and the credit account are found, and the amount can be
  written. -/
  settlement : ∀ f, settle order involved today ≠ .error (.fault f)

lemma settle_ne_fault {order : Order} {accounts : List Account}
    (hamount : isWritable order.amount = true)
    (hdebit : ∃ a ∈ accounts, a.id = order.debit) (hcredit : ∃ a ∈ accounts, a.id = order.credit)
    (today : Day) (f : Fault) : settle order accounts today ≠ .error (.fault f) := by
  obtain ⟨debit, hdebit⟩ := Account.exists_lastWith? hdebit
  obtain ⟨credit, hcredit⟩ := Account.exists_lastWith? hcredit
  obtain _ | ⟨first, later⟩ := accounts
  · cases hdebit
  intro h
  rw [settle, Instruction.parties, hdebit, hcredit, if_pos hamount] at h
  by_cases hcurrency : order.currency = first.currency
  · rw [if_neg (not_not.mpr hcurrency)] at h
    dsimp only at h
    split at h <;> cases h
  · rw [if_pos hcurrency] at h
    cases h

lemma Request.Reaches.stagesSucceed {request : Request} {order : Order} {involved : List Account}
    (h : request.Reaches order involved) (today : Day) : StagesSucceed order involved today := by
  obtain ⟨i, hread, hresolve, hscreen⟩ := h
  obtain rfl := Sentence.eq_reading_of_parse hread
  obtain ⟨hdebit, hcredit, rfl⟩ := (resolve_eq_ok_iff _ _).mp hresolve
  have hpasses := Instruction.passesAs_of_screen hscreen
  -- The accounts have the two ids of the instruction, which passed.
  have hids : ∀ a ∈ request.involved, IsAccountId a.id :=
    fun _ ha => isAccountId_of_mem_withEither hpasses.isAccountId_debit hpasses.isAccountId_credit ha
  refine ⟨fun a ha => screenId_eq_ok_iff.mpr ⟨hids a ha, rfl⟩, fun r hr => ?_, fun f => ?_⟩
  · have hcode := (((decides_screenAccounts _).of_cons hids).firstUnmet hr).code_mem
    intro h
    rw [h] at hcode
    simp at hcode
  · refine settle_ne_fault (isWritable_of_passesAs hpasses) ?_ ?_ today f
    · rw [hpasses.debit]
      exact (Account.exists_mem_withEither (.inl rfl)).mpr hdebit
    · rw [hpasses.credit]
      exact (Account.exists_mem_withEither (.inr rfl)).mpr hcredit

/-! ## The whole -/

/-- A payload comes to a transaction, to violations or to a failure, and to nothing else. -/
theorem clearPayload_comesTo (payload : Json) (today : Day) :
    payload.ComesTo (clearPayload payload today).outcome ∧
      (¬payload.Conforms →
        ∃ found, clearPayload payload today = .refuse [] (.violations found)) ∧
      (∀ {request : Request} {order involved}, request.Reaches order involved →
        StagesSucceed order involved today) ∧
      ∀ word, Number.Converts word := by
  refine ⟨comesTo_clearPayload payload today, fun h => ?_, fun h => h.stagesSucceed today,
    Number.converts⟩
  obtain ⟨found, _, hfound⟩ := clearPayload_of_not_conforms h today
  exact ⟨found, hfound⟩

end Remittance
