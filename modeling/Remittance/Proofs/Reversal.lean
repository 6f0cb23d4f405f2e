import Remittance.Proofs.AccountOrder
import Remittance.Proofs.FormSymmetry
import Remittance.Proofs.NormalForm
import Remittance.Proofs.Timing
import Remittance.Proofs.WrittenNumber

/-!
# A transfer can be taken back

The entries of a transaction that was carried out make the accounts of another request, and the
transfer in the other direction makes its text (`Transaction.refund`).  `clear_refund` says that this
request is accepted and carried out on every day, and that it gives every account its balance back.

Nothing in it depends on how the first request was written.  The amount is written in decimal,
whatever its form was, and is read back exactly because it was captured before; the words are plain
because the ids and the currency passed the screening.  The account that is debited now was credited
before, and had no debts to start with, so that it holds the amount.
-/

namespace Remittance

/-! ## Refunds -/

namespace Transaction

/-- The accounts as a transaction leaves them. -/
def accountsAfter (t : Transaction) : List Account :=
  t.accounts.map fun e => ⟨e.id, e.balance, e.currency⟩

/-- The request that takes a transaction back. -/
def refund (t : Transaction) : Request where
  accounts := t.accountsAfter
  text := Sentence.text .debit (Numeral.integer t.amount) t.currency t.credit t.debit none

/-- The first transaction takes the second one back: it is carried out, moves the same amount the
other way, and changes every balance from what the second reports into what was there before it. -/
structure Undoes (u t : Transaction) : Prop where
  executed : u.IsExecuted
  amount : u.amount = t.amount
  currency : u.currency = t.currency
  debit : u.debit = t.credit
  credit : u.credit = t.debit
  entries : u.accounts = t.accounts.map fun e => ⟨e.id, e.balanceBefore, e.balance, e.currency⟩

end Transaction

/-! ## The words of a refund -/

namespace Text

/-- The characters of account ids are neither word breaks nor blanks. -/
lemma isPlain_of_isIdCharacter {c : Char} (h : isIdCharacter c = true) :
    isWordBreak c = false ∧ isTrimmable c = false := by
  have hascii : ∀ code < 128, isIdCharacter (Char.ofNat code) = true →
      isWordBreak (Char.ofNat code) = false ∧ isTrimmable (Char.ofNat code) = false := by decide
  have hle : c ≤ 'z' := by
    simp only [isIdCharacter, idSymbols, Bool.or_eq_true, Bool.and_eq_true, decide_eq_true_eq,
      List.contains_iff_mem, List.mem_cons, List.not_mem_nil, or_false] at h
    rcases h with ((⟨_, hupper⟩ | ⟨_, hlower⟩) | ⟨_, hdigit⟩) | rfl | rfl | rfl
    · exact Char.le_trans hupper (by decide)
    · exact hlower
    · exact Char.le_trans hdigit (by decide)
    all_goals decide
  have hlt : c.toNat < 128 := Nat.lt_of_le_of_lt hle (by decide)
  have hplain := hascii c.toNat hlt
  rw [Char.ofNat_toNat] at hplain
  exact hplain h

lemma isPlainWord_of_isAccountId {id : String} (hne : id ≠ "") (h : IsAccountId id) :
    IsPlainWord id :=
  ⟨hne, fun c hc => isPlain_of_isIdCharacter (h c hc)⟩

lemma isPlainWord_of_supported {currency : String} (h : currency ∈ supportedCurrencies) :
    IsPlainWord currency := by
  have hall : ∀ currency ∈ supportedCurrencies, IsPlainWord currency := by decide +kernel
  exact hall currency h

end Text

/-! ## What an order does to balances -/

namespace Instruction

/-- The order that takes an order back. -/
def refund (order : Order) : Order :=
  ⟨.debit, order.amount, order.currency, order.credit, order.debit, none⟩

/-- What an order adds to the balance of an id when it is carried out. -/
def shift (order : Order) (id : String) : Int :=
  (if id = order.credit then order.amount else 0) - (if id = order.debit then order.amount else 0)

@[simp] lemma isDue_refund (order : Order) (today : Day) : order.refund.isDue today = true :=
  rfl

lemma shift_credit {order : Order} (hne : order.debit ≠ order.credit) :
    order.shift order.credit = order.amount := by
  rw [shift, if_pos rfl, if_neg (Ne.symm hne), Int.sub_zero]

lemma shift_refund (order : Order) (id : String) : order.refund.shift id = -order.shift id := by
  rw [shift, shift, Int.neg_sub]
  rfl

end Instruction

/-- A request in normal form, without two accounts of one id, comes to an order, and the transaction
reports that the order was carried out. -/
structure Request.Executes (request : Request) (order : Order) (t : Transaction) : Prop where
  normal : request.IsNormal
  ids : (request.accounts.map (·.id)).Nodup
  comes : request.ComesTo order
  report : ∃ today, order.isDue today = true ∧ t = .ofOrder order request.involved today

namespace Request.Executes

variable {request : Request} {order : Order} {t : Transaction}

lemma nodup_involved (h : request.Executes order t) : (request.involved.map (·.id)).Nodup :=
  nodup_withEither h.ids _ _

/-- Every entry shows its own account, whose balance was shifted. -/
lemma accounts_eq (h : request.Executes order t) :
    t.accounts =
      request.involved.map fun a =>
        ⟨a.id, a.balance + order.shift a.id, a.balance, order.currency⟩ := by
  obtain ⟨today, hdue, rfl⟩ := h.report
  refine List.map_congr_left fun a ha => ?_
  have hbalance := Balances.get_ofAccounts_of_mem h.nodup_involved ha
  have hcurrency : Text.upper a.currency = order.currency := by
    rw [h.comes.currency a ha, h.comes.upper_currency]
  simp only [hdue, if_true, Balances.get_transfer, hbalance, hcurrency, Entry.mk.injEq, true_and,
    and_true, Instruction.shift]
  omega

lemma accounts_refund (h : request.Executes order t) :
    t.refund.accounts =
      request.involved.map fun a => ⟨a.id, a.balance + order.shift a.id, order.currency⟩ := by
  rw [Transaction.refund, Transaction.accountsAfter, h.accounts_eq, List.map_map]
  rfl

/-! ### The text of a refund -/

lemma text_refund (h : request.Executes order t) :
    t.refund.text = Sentence.text .debit (Numeral.integer order.amount) order.currency order.credit
      order.debit none := by
  obtain ⟨today, _, rfl⟩ := h.report
  rfl

lemma isAccountId_debit (h : request.Executes order t) : IsAccountId order.debit := by
  rw [h.comes.passes.debit]
  exact h.comes.passes.isAccountId_debit

lemma isAccountId_credit (h : request.Executes order t) : IsAccountId order.credit := by
  rw [h.comes.passes.credit]
  exact h.comes.passes.isAccountId_credit

lemma id_ne_empty (h : request.Executes order t) {id : String}
    (hid : ∃ a ∈ request.accounts, a.id = id) : id ≠ "" := by
  obtain ⟨a, ha, rfl⟩ := hid
  exact (h.normal.accounts a ha).id_ne_empty

/-- The words of a refund can stand in a sentence: a number, and what passed the screening. -/
lemma arePlain (h : request.Executes order t) :
    Sentence.ArePlain (Numeral.integer order.amount) order.currency order.credit order.debit
      none := by
  have hcurrency := Text.isPlainWord_of_supported h.comes.passes.supported
  have hdebit := Text.isPlainWord_of_isAccountId (h.id_ne_empty h.comes.debit) h.isAccountId_debit
  have hcredit :=
    Text.isPlainWord_of_isAccountId (h.id_ne_empty h.comes.credit) h.isAccountId_credit
  simp only [Sentence.ArePlain, Option.toList_none, List.append_nil, List.forall_mem_cons]
  exact ⟨Text.isPlainWord_integer _, hcurrency, hcredit, hdebit, List.forall_mem_nil _⟩

/-- The amount of an order was captured from a word. -/
lemma amount_le_largest (h : request.Executes order t) :
    order.amount.natAbs ≤ Numeral.Magnitude.largest := by
  have hamount : Scalar.number (Sentence.reading (Text.words request.text)).amount =
      .whole order.amount := h.comes.passes.amount
  rw [Sentence.amount_reading] at hamount
  exact Number.le_largest_of_capture (Scalar.number.inj hamount)

lemma read_refund (h : request.Executes order t) :
    Sentence.read t.refund.text =
      .ok ⟨.debit, .whole order.amount, order.currency, order.credit, order.debit, none⟩ := by
  rw [h.text_refund, Sentence.read_text .debit h.arePlain,
    Number.capture_integer h.amount_le_largest, h.comes.upper_currency]

lemma instruction_refund (h : request.Executes order t) :
    t.refund.instruction =
      ⟨.debit, .whole order.amount, order.currency, order.credit, order.debit, none⟩ := by
  rw [Request.instruction, ← Sentence.eq_reading_of_parse h.read_refund]
  rfl

/-! ### The accounts of a refund -/

lemma nodup_refund (h : request.Executes order t) : (t.refund.accounts.map (·.id)).Nodup := by
  rw [h.accounts_refund, List.map_map]
  exact h.nodup_involved

/-- A refund involves all of its accounts. -/
lemma involved_refund (h : request.Executes order t) :
    t.refund.involved = t.refund.accounts := by
  rw [Request.involved, h.instruction_refund, h.accounts_refund]
  refine List.filter_eq_self.mpr fun b hb => ?_
  obtain ⟨a, ha, rfl⟩ := List.mem_map.mp hb
  rw [h.comes.involved_eq] at ha
  simpa using (Account.mem_withEither.mp ha).2.symm

lemma balance_nonneg (h : request.Executes order t) {e : Entry} (he : e ∈ t.accounts) :
    0 ≤ e.balance := by
  obtain ⟨today, _, rfl⟩ := h.report
  obtain ⟨debit, credit, hsettles⟩ := Transaction.exists_settles h.comes today
  have hcredit := h.normal.accounts credit hsettles.credit_isLast.mem
  exact hsettles.balance_nonneg hcredit.balance_nonneg he

lemma normal_refund (h : request.Executes order t) : t.refund.IsNormal := by
  have htrim : Text.trim order.currency = order.currency :=
    Text.trim_of_isPlainWord (Text.isPlainWord_of_supported h.comes.passes.supported)
  constructor
  · intro b hb
    obtain ⟨e, he, rfl⟩ := List.mem_map.mp hb
    have hbalance := h.balance_nonneg he
    rw [h.accounts_eq] at he
    obtain ⟨a, ha, rfl⟩ := List.mem_map.mp he
    have hnormal := h.normal.accounts a (Account.mem_withEither.mp ha).1
    exact ⟨hnormal.id_ne_empty, hnormal.trim_id, hbalance, htrim, h.comes.upper_currency⟩
  · rw [h.text_refund]
    exact Sentence.text_ne_empty .debit h.arePlain
  · rw [h.text_refund]
    exact Sentence.trim_text .debit h.arePlain

/-- An account with one of the two ids is among those of the refund, with its balance shifted. -/
lemma exists_mem_refund (h : request.Executes order t) {id : String}
    (hid : id = order.debit ∨ id = order.credit) (hmem : ∃ a ∈ request.accounts, a.id = id) :
    ∃ a ∈ request.accounts, a.id = id ∧
      (⟨id, a.balance + order.shift id, order.currency⟩ : Account) ∈ t.refund.accounts := by
  obtain ⟨a, ha, rfl⟩ := hmem
  refine ⟨a, ha, rfl, ?_⟩
  rw [h.accounts_refund, h.comes.involved_eq]
  exact List.mem_map.mpr ⟨a, Account.mem_withEither.mpr ⟨ha, hid⟩, rfl⟩

lemma comes_refund (h : request.Executes order t) : t.refund.ComesTo order.refund := by
  have hpasses := h.comes.passes
  obtain ⟨debit, _, _, hdebit⟩ := h.exists_mem_refund (.inl rfl) h.comes.debit
  obtain ⟨credit, hcredit, _, hmem⟩ := h.exists_mem_refund (.inr rfl) h.comes.credit
  refine ⟨⟨_, hmem, rfl⟩, ⟨_, hdebit, rfl⟩, ?_, ?_, ?_⟩
  · rw [h.instruction_refund]
    exact ⟨rfl, rfl, rfl, h.isAccountId_credit, h.isAccountId_debit,
      Ne.symm hpasses.debit_ne_credit, rfl, hpasses.one_le_amount, h.comes.upper_currency.symm,
      hpasses.supported, rfl⟩
  · intro b hb
    rw [h.involved_refund, h.accounts_refund] at hb
    obtain ⟨a, _, rfl⟩ := List.mem_map.mp hb
    rfl
  · -- The account was credited with the amount, and its balance was not negative before.
    have hbalance := Balances.get_ofAccounts_of_mem h.nodup_refund hmem
    have hnonneg := (h.normal.accounts credit hcredit).balance_nonneg
    rw [Instruction.shift_credit hpasses.debit_ne_credit] at hbalance
    dsimp only at hbalance
    rw [h.involved_refund]
    change order.amount ≤ (Balances.ofAccounts _).get order.credit
    rw [hbalance]
    omega

/-- The refund of what was carried out is carried out itself, on every day. -/
theorem executes_refund (h : request.Executes order t) (day : Day) :
    t.refund.Executes order.refund (.ofOrder order.refund t.refund.involved day) :=
  ⟨h.normal_refund, h.nodup_refund, h.comes_refund, day, order.isDue_refund day, rfl⟩

lemma outcome_refund (h : request.Executes order t) (day : Day) :
    (clearPayload t.refund.payload day).outcome =
      .ok (.ofOrder order.refund t.refund.involved day) := by
  rw [clearPayload, h.normal_refund.check_payload]
  exact outcome_eq_ok_iff.mpr ⟨_, h.comes_refund.judge_eq h.read_refund, rfl⟩

lemma entries_refund (h : request.Executes order t) (day : Day) :
    (Transaction.ofOrder order.refund t.refund.involved day).accounts =
      t.accounts.map fun e => ⟨e.id, e.balanceBefore, e.balance, e.currency⟩ := by
  rw [(h.executes_refund day).accounts_eq, h.involved_refund, h.accounts_refund, h.accounts_eq,
    List.map_map, List.map_map]
  refine List.map_congr_left fun a _ => ?_
  simp only [Function.comp_apply, Instruction.shift_refund, Entry.mk.injEq, true_and]
  exact ⟨by omega, rfl⟩

lemma undoes (h : request.Executes order t) (day : Day) :
    (Transaction.ofOrder order.refund t.refund.involved day).Undoes t := by
  have hentries := h.entries_refund day
  obtain ⟨today, _, rfl⟩ := h.report
  exact ⟨Transaction.isExecuted_ofOrder (order.isDue_refund day), rfl, rfl, rfl, rfl, hentries⟩

end Request.Executes

/-! ## The whole -/

/-- A transaction that was carried out can be taken back on every day, as long as no two accounts of
the request have one id. -/
theorem clear_refund {request : Request} (haccepted : request.Accepted)
    (hids : (request.accounts.map (·.id)).Nodup) {today : Day} {t : Transaction}
    (h : (clear request today).outcome = .ok t) (hcode : t.code = "AP00") :
    (∀ intake, Request.check intake t.refund.payload = .ok t.refund) ∧
      ∀ day, ∃ u, (clearPayload t.refund.payload day).outcome = .ok u ∧ u.Undoes t := by
  obtain ⟨order, hcomes, rfl⟩ := exists_order_of_transaction h
  have hexecutes : request.Executes order _ := ⟨Request.accepted_iff_isNormal.mp haccepted, hids,
    hcomes, today, Transaction.isDue_of_code hcode, rfl⟩
  exact ⟨hexecutes.normal_refund.check_payload, fun day =>
    ⟨_, hexecutes.outcome_refund day, hexecutes.undoes day⟩⟩

/-- A transfer of all that an account holds, with the amount in scientific notation, beside an account
in another currency. -/
def emptying : Request where
  accounts := [⟨"b", 0, "GBP"⟩, ⟨"c", 3, "EUR"⟩, ⟨"a", 500, "GBP"⟩]
  text := "Credit 5e2 gbp to account b for debit from account a on 2026-01-01"

/-- What `emptying` comes to once it is due. -/
def emptied : Transaction where
  kind := "CREDIT"
  amount := 500
  currency := "GBP"
  debit := "a"
  credit := "b"
  executeBy := none
  status := .successful
  code := "AP00"
  accounts := [⟨"b", 500, 0, "GBP"⟩, ⟨"a", 0, 500, "GBP"⟩]

example : emptied.refund.text = "DEBIT 500 GBP FROM ACCOUNT b FOR CREDIT TO ACCOUNT a" := by
  decide +kernel

theorem clear_refund_emptied :
    emptying.Accepted ∧ (emptying.accounts.map (·.id)).Nodup ∧
      (clear emptying ⟨2026, 1, 1, by decide⟩).outcome = .ok emptied ∧ emptied.code = "AP00" ∧
      (∀ intake, Request.check intake emptied.refund.payload = .ok emptied.refund) ∧
      ∀ day, ∃ u, (clearPayload emptied.refund.payload day).outcome = .ok u ∧
        u.Undoes emptied := by
  have haccepted : emptying.Accepted := ⟨.direct, emptying.payload, by decide +kernel⟩
  have hids : (emptying.accounts.map (·.id)).Nodup := by decide
  have hclear : (clear emptying ⟨2026, 1, 1, by decide⟩).outcome = .ok emptied := by
    decide +kernel
  exact ⟨haccepted, hids, hclear, rfl, clear_refund haccepted hids hclear rfl⟩

end Remittance
