import Remittance.Clearing
import Remittance.Proofs.Conversions
import Remittance.Proofs.ScreeningVerdict
import Remittance.Proofs.SentencePositions
import Remittance.Proofs.Settlement
import Remittance.Proofs.UpperCase

/-!
# The judgement of a request

`clear` mixes three things: which stage turns a request down, what the failure or the transaction
reports, and what goes into the journal.  `Request.judge` is the first alone: the order that a
request comes to, or the rejection.  It does not look at the day.  `Request.report` is the rest, and
`clear_eq` puts the two together.

That the failure of a late stage reports the same instruction as that of an early one is part of
`clear_eq`: the order that passed the screening has the values that the text says.  So is that no
stage meets a fault.  Two of them could because of an amount that cannot be written, but the amount
that a word stands for can.
-/

namespace Remittance

open Requirement

/-! ## The sentence -/

namespace Sentence

/-- What is required of the words of a sentence. -/
def requirements (words : List String) : List Requirement :=
  [⟨leastWords ≤ words.length ∧ words.length ≤ mostWords, .malformedInstruction⟩,
    ⟨KeywordsInPlace words, .missingKeyword⟩]

theorem decides_parse (words : List String) : Decides (requirements words) (parse words) := by
  rw [parse_eq, requirements]
  by_cases hlength : words.length < leastWords ∨ mostWords < words.length
  · rw [if_pos hlength]
    refine firstUnmet_cons.mpr (.inl ⟨fun hmet => ?_, rfl⟩)
    dsimp only at hmet
    omega
  have hmet : leastWords ≤ words.length ∧ words.length ≤ mostWords := by omega
  rw [if_neg hlength]
  cases hmissing : firstMissing? words with
  | some phrase =>
    have hunmet : ¬ KeywordsInPlace words := fun h => by
      rw [firstMissing?_eq_none_iff.mpr h] at hmissing
      cases hmissing
    exact firstUnmet_cons.mpr (.inr ⟨hmet, firstUnmet_singleton.mpr ⟨hunmet, rfl⟩⟩)
  | none =>
    exact allMet_cons.mpr ⟨hmet, allMet_singleton.mpr (firstMissing?_eq_none_iff.mp hmissing)⟩

lemma eq_reading_of_parse {words : List String} {i : Instruction Number String}
    (h : parse words = .ok i) : i = reading words := by
  rw [parse_eq] at h
  split at h
  · cases h
  · split at h
    · cases h
    · exact (Except.ok.inj h).symm

end Sentence

/-! ## The judgement -/

namespace Request

/-- What the text of a request says, word by word.  It means something once the text is known to be
a sentence. -/
def instruction (request : Request) : RawInstruction :=
  (Sentence.reading (Text.words request.text)).mapAmount Scalar.number

/-- The accounts that the text of a request names. -/
def involved (request : Request) : List Account :=
  Account.withEither request.instruction.debit request.instruction.credit request.accounts

/-- The order that a request comes to, unless it is turned down. -/
def judge (request : Request) : Except Rejection Order := do
  let _ ← Sentence.read request.text
  let _ ← resolve request.accounts request.instruction
  let order ← request.instruction.judge
  let _ ← screenAccounts request.involved
  order.cover request.involved

/-- The failure that a rejection of the request is.  No accounts are reported if one of them was not
found. -/
def failure (request : Request) (r : Rejection) : Failure :=
  .ofRejection r (some request.instruction)
    (if r.code = .accountNotFound then [] else request.involved)

/-- What becomes of a judged request on a day. -/
def report (request : Request) (today : Day) :
    Except Rejection Order → Journaled Refusal Transaction
  | .error r => .refuse (r.note?.toList ++ [r.warning]) (.failure (request.failure r))
  | .ok order =>
    let t := Transaction.ofOrder order request.involved today
    ⟨[t.note, t.information], .ok t⟩

lemma upper_instruction_currency (request : Request) :
    Text.upper request.instruction.currency = request.instruction.currency :=
  Text.upper_upper _

end Request

/-! ## Failures report what the text says -/

section Failures

variable {request : Request} {r : Rejection}

lemma code_of_parse {words : List String} (h : Sentence.parse words = .error r) :
    r.code = .malformedInstruction ∨ r.code = .missingKeyword := by
  have hcode := ((Sentence.decides_parse words).firstUnmet h).code_mem
  simpa [Sentence.requirements] using hcode

lemma code_of_resolve {α δ : Type} {accounts : List Account} {i : Instruction α δ}
    (h : resolve accounts i = .error r) : r.code = .accountNotFound := by
  have hcode := ((decides_resolve accounts i).firstUnmet h).code_mem
  simpa [accountRequirements] using hcode

/-- A rejection of the text reports nothing about the instruction. -/
lemma failure_of_parse (h : Sentence.parse (Text.words request.text) = .error r) :
    Failure.ofRejection r (none : Option RawInstruction) [] = request.failure r := by
  have hsyntactic : r.code.isSyntactic = true := by
    rcases code_of_parse h with h | h <;> rw [h] <;> rfl
  rw [Request.failure, Failure.ofRejection, Failure.ofRejection, Failure.describe,
    Failure.describe, FailureContext.describe, FailureContext.describe, if_pos hsyntactic]

lemma failure_of_resolve (h : resolve request.accounts request.instruction = .error r) :
    Failure.ofRejection r (some request.instruction) [] = request.failure r := by
  rw [Request.failure, if_pos (code_of_resolve h)]

/-- A stage that works on accounts that were found turns down with their entries. -/
lemma failure_of_found {rs : List Requirement} (h : FirstUnmet rs r.code)
    (hcodes : StatusCode.accountNotFound ∉ rs.map Requirement.code) :
    Failure.ofRejection r (some request.instruction) request.involved = request.failure r := by
  have hne : r.code ≠ .accountNotFound := fun heq => hcodes (heq ▸ h.code_mem)
  rw [Request.failure, if_neg hne]

/-- An order reports as the instruction that it was made from. -/
lemma ofRejection_order {i : RawInstruction} {o : Order} (h : i.PassesAs o)
    (hupper : Text.upper i.currency = i.currency) (accounts : List Account) :
    Failure.ofRejection r (some (o.mapAmount Scalar.whole)) accounts =
      Failure.ofRejection r (some i) accounts := by
  have hcontext : ∀ code reason,
      FailureContext.ofInstruction code reason (o.mapAmount Scalar.whole) accounts =
        FailureContext.ofInstruction code reason i accounts := by
    intro code reason
    rw [FailureContext.ofInstruction, FailureContext.ofInstruction, h.amount]
    simp only [Instruction.mapAmount, h.kind, h.debit, h.credit, h.currency, hupper]
  rw [Failure.ofRejection, Failure.ofRejection, Failure.describe, Failure.describe,
    FailureContext.describe, FailureContext.describe, hcontext]

end Failures

/-! ## Amounts can be shown -/

section Amounts

variable {request : Request}

lemma Request.isWritable_amount (request : Request) :
    request.instruction.amount.isWritable = true := by
  obtain ⟨word, hword⟩ : ∃ word, request.instruction.amount = .number (.capture word) := ⟨_, rfl⟩
  rw [hword]
  cases hcapture : Number.capture word with
  | whole n => exact decide_eq_true ((Number.converts word).shown n hcapture)
  | binary x => rfl

/-- Whatever an instruction that was read is turned down for can be told. -/
lemma Request.isTellable_of_judge {r : Rejection} (h : request.instruction.judge = .error r) :
    r.isTellable = true :=
  (Instruction.exhibits_of_judge h).isTellable request.isWritable_amount

lemma isWritable_of_passesAs {order : Order} (h : request.instruction.PassesAs order) :
    Numeral.isWritable order.amount = true := by
  have hamount := request.isWritable_amount
  rwa [h.amount] at hamount

/-- A stage that does not look at the amount can tell why it turns a request down. -/
lemma isTellable_of_firstUnmet {r : Rejection} {rs : List Requirement} (h : FirstUnmet rs r.code)
    (hcodes : StatusCode.invalidAmount ∉ rs.map Requirement.code) : r.isTellable = true := by
  cases r with
  | invalidAmount amount => exact absurd h.code_mem hcodes
  | _ => rfl

end Amounts

/-! ## The whole -/

/-- A stage of the clearing and the stage of the judgement that it comes from. -/
lemma stage_bind_eq {α : Type} {request : Request} {today : Day}
    {instruction : Option RawInstruction} {accounts : List Account} {x : Except Rejection α}
    {next : α → Journaled Refusal Transaction} {rest : α → Except Rejection Order}
    (herror : ∀ r, x = .error r → r.isTellable = true ∧
      Failure.ofRejection r instruction accounts = request.failure r)
    (hok : ∀ a, x = .ok a → next a = request.report today (rest a)) :
    stage instruction accounts (tell x) >>= next = request.report today (x >>= rest) := by
  cases x with
  | error r =>
    obtain ⟨htellable, hfailure⟩ := herror r rfl
    rw [tell_error, told_of_isTellable htellable]
    change Journaled.refuse _ (Refusal.failure (Failure.ofRejection r instruction accounts)) = _
    rw [hfailure]
    rfl
  | ok a => exact hok a rfl

/-- The last stage: the order is covered, or turned down with the entries of its accounts. -/
lemma settlementStage_bind_eq {request : Request} (today : Day) {order : Order}
    (hpasses : request.instruction.PassesAs order)
    (hdebit : ∃ a ∈ request.accounts, a.id = request.instruction.debit)
    (hcredit : ∃ a ∈ request.accounts, a.id = request.instruction.credit)
    (hsame : ∀ a ∈ request.involved, ∀ b ∈ request.involved, a.currency = b.currency) :
    (do
      let transaction ← settlementStage order request.involved today
      .write transaction.information
      pure transaction) = request.report today (order.cover request.involved) := by
  have hdebit' : ∃ a ∈ request.involved, a.id = order.debit := by
    rw [hpasses.debit]
    exact (Account.exists_mem_withEither (.inl rfl)).mpr hdebit
  have hcredit' : ∃ a ∈ request.involved, a.id = order.credit := by
    rw [hpasses.credit]
    exact (Account.exists_mem_withEither (.inr rfl)).mpr hcredit
  rw [settlementStage, settle_eq today (isWritable_of_passesAs hpasses) hdebit' hcredit' hsame]
  cases h : order.cover request.involved with
  | error r =>
    have hfailure : Failure.ofRejection r (some request.instruction) request.involved
        = request.failure r :=
      failure_of_found ((decides_cover _ _).firstUnmet h) (by simp [coverRequirements])
    rw [Request.report, ← hfailure,
      ← ofRejection_order hpasses request.upper_instruction_currency request.involved]
    rfl
  | ok order' =>
    obtain rfl := Instruction.cover_eq_ok h
    rfl

/-- A request is judged first, and the day only matters to the report. -/
theorem clear_eq (request : Request) (today : Day) :
    clear request today = request.report today request.judge := by
  unfold clear Request.judge
  refine stage_bind_eq (fun r h => ⟨?_, failure_of_parse h⟩) fun captured hread => ?_
  · exact isTellable_of_firstUnmet ((Sentence.decides_parse _).firstUnmet h)
      (by simp [Sentence.requirements])
  obtain rfl := Sentence.eq_reading_of_parse hread
  have hinstruction : (Sentence.reading (Text.words request.text)).mapAmount Scalar.number
      = request.instruction := rfl
  rw [hinstruction]
  dsimp only
  rw [Instruction.screen_eq]
  -- The stage that looks for the accounts fails without any, every later one with all of them.
  refine stage_bind_eq (fun r h => ⟨?_, failure_of_resolve h⟩) fun involved hresolve => ?_
  · exact isTellable_of_firstUnmet ((decides_resolve _ _).firstUnmet h)
      (by simp [accountRequirements])
  obtain ⟨hdebit, hcredit, hinvolved⟩ := (resolve_eq_ok_iff _ _).mp hresolve
  obtain rfl : involved = request.involved := hinvolved
  refine stage_bind_eq (fun r h => ?_) fun order hjudge => ?_
  · have hunmet := (Instruction.decides_judge _).firstUnmet h
    exact ⟨Request.isTellable_of_judge h,
      failure_of_found hunmet (by simp [instructionRequirements])⟩
  refine stage_bind_eq (fun r h => ?_) fun involved hinvolved => ?_
  · have hunmet := (decides_screenAccounts _).firstUnmet h
    exact ⟨isTellable_of_firstUnmet hunmet (by simp [involvedRequirements]),
      failure_of_found hunmet (by simp [involvedRequirements])⟩
  obtain rfl := screenAccounts_eq_ok hinvolved
  -- That the accounts share a currency is what lets the settlement look at the first one only.
  have hmet := (decides_screenAccounts request.involved).allMet hinvolved
  have hsame : ∀ a ∈ request.involved, ∀ b ∈ request.involved, a.currency = b.currency :=
    hmet ⟨_, .currencyMismatch⟩ (by simp [involvedRequirements])
  exact settlementStage_bind_eq today (Instruction.passesAs_of_judge hjudge) hdebit hcredit hsame

/-! ## Outcomes -/

/-- A request is refused only as a failure, and the failure does not depend on the day. -/
theorem outcome_eq_error_iff {request : Request} {today : Day} {e : Refusal} :
    (clear request today).outcome = .error e ↔
      ∃ r, request.judge = .error r ∧ e = .failure (request.failure r) := by
  rw [clear_eq]
  cases request.judge with
  | error r =>
    constructor
    · intro h
      exact ⟨r, rfl, (Except.error.inj h).symm⟩
    · rintro ⟨_, hr, rfl⟩
      rw [Except.error.inj hr]
      rfl
  | ok order => exact ⟨fun h => (nomatch h), fun ⟨_, hr, _⟩ => (nomatch hr)⟩

/-- A transaction reports the order that the request comes to. -/
theorem outcome_eq_ok_iff {request : Request} {today : Day} {t : Transaction} :
    (clear request today).outcome = .ok t ↔
      ∃ order, request.judge = .ok order ∧ t = .ofOrder order request.involved today := by
  rw [clear_eq]
  cases request.judge with
  | error r => exact ⟨fun h => (nomatch h), fun ⟨_, hr, _⟩ => (nomatch hr)⟩
  | ok order =>
    constructor
    · intro h
      exact ⟨order, rfl, (Except.ok.inj h).symm⟩
    · rintro ⟨_, horder, rfl⟩
      rw [Except.ok.inj horder]
      rfl

/-! ## Requests that come to an order -/

/-- What is known of a request that comes to an order. -/
structure Request.ComesTo (request : Request) (order : Order) : Prop where
  debit : ∃ a ∈ request.accounts, a.id = order.debit
  credit : ∃ a ∈ request.accounts, a.id = order.credit
  passes : request.instruction.PassesAs order
  currency : ∀ a ∈ request.involved, a.currency = order.currency
  funds : order.amount ≤ (Balances.ofAccounts request.involved).get order.debit

lemma Request.ComesTo.upper_currency {request : Request} {order : Order}
    (h : request.ComesTo order) : Text.upper order.currency = order.currency := by
  rw [h.passes.currency, Text.upper_upper]

lemma Request.comesTo_of_judge {request : Request} {order : Order}
    (h : request.judge = .ok order) : request.ComesTo order := by
  obtain ⟨_, _, h⟩ := bind_eq_ok_iff.mp h
  obtain ⟨_, hresolve, h⟩ := bind_eq_ok_iff.mp h
  obtain ⟨order', hjudge, h⟩ := bind_eq_ok_iff.mp h
  obtain ⟨_, _, hcover⟩ := bind_eq_ok_iff.mp h
  obtain rfl := Instruction.cover_eq_ok hcover
  obtain ⟨hdebit, hcredit, _⟩ := (resolve_eq_ok_iff _ _).mp hresolve
  have hpasses := Instruction.passesAs_of_judge hjudge
  obtain ⟨hcurrency, hfunds⟩ := allMet_cons.mp ((decides_cover _ _).allMet hcover)
  refine ⟨?_, ?_, hpasses, hcurrency, allMet_singleton.mp hfunds⟩
  · rw [hpasses.debit]
    exact hdebit
  · rw [hpasses.credit]
    exact hcredit

/-- A sentence that passes every stage as an order comes to that order. -/
lemma Request.ComesTo.judge_eq {request : Request} {order : Order} (h : request.ComesTo order)
    {i : Instruction Number String} (hread : Sentence.read request.text = .ok i) :
    request.judge = .ok order := by
  have hpasses := h.passes
  have hresolve : resolve request.accounts request.instruction = .ok request.involved := by
    refine (resolve_eq_ok_iff _ _).mpr ⟨?_, ?_, rfl⟩
    · rw [← hpasses.debit]
      exact h.debit
    · rw [← hpasses.credit]
      exact h.credit
  have hids : ∀ a ∈ request.involved, IsAccountId a.id := fun _ ha =>
    isAccountId_of_mem_withEither hpasses.isAccountId_debit hpasses.isAccountId_credit ha
  have hsupported : ∀ a ∈ request.involved, Text.upper a.currency ∈ supportedCurrencies := by
    intro a ha
    rw [h.currency a ha, h.upper_currency]
    exact hpasses.supported
  have hsame : ∀ a ∈ request.involved, ∀ b ∈ request.involved, a.currency = b.currency :=
    fun a ha b hb => (h.currency a ha).trans (h.currency b hb).symm
  obtain ⟨involved, hscreen⟩ := (decides_screenAccounts request.involved).exists_ok
    (allMet_cons.mpr ⟨hids, allMet_cons.mpr ⟨hsupported, allMet_singleton.mpr hsame⟩⟩)
  obtain ⟨order', hcover⟩ := (decides_cover order request.involved).exists_ok
    (allMet_cons.mpr ⟨h.currency, allMet_singleton.mpr h.funds⟩)
  obtain rfl := Instruction.cover_eq_ok hcover
  rw [judge, hread, hresolve, hpasses.judge_eq, hscreen]
  exact hcover

/-- The order of a transaction is known to have passed every stage. -/
lemma exists_order_of_transaction {request : Request} {today : Day} {t : Transaction}
    (h : (clear request today).outcome = .ok t) :
    ∃ order, request.ComesTo order ∧ t = .ofOrder order request.involved today := by
  obtain ⟨order, hjudge, ht⟩ := outcome_eq_ok_iff.mp h
  exact ⟨order, Request.comesTo_of_judge hjudge, ht⟩

end Remittance
