import Mathlib.Algebra.Ring.Int.Defs
import Mathlib.Data.List.Basic
import Remittance.Proofs.Acceptance
import Remittance.Proofs.Judgement

/-!
# Conservation of money

A transaction moves its amount from one account to another, or leaves it where it is.  The two
accounts are the last of the request with their ids; `Transaction.Settles` says how they and the
entries of the transaction belong together, and `clear_settles` that every transaction settles.

The entries of a transaction report the balances by id, and so do not add up once earlier accounts
with the same id have other balances than the last.  `clear_conserves_iff` says exactly when they
do.
-/

namespace Remittance

/-! ## The two accounts -/

namespace Request.ComesTo

variable {request : Request} {order : Order}

lemma involved_eq (h : request.ComesTo order) :
    request.involved = Account.withEither order.debit order.credit request.accounts := by
  rw [involved, h.passes.debit, h.passes.credit]

/-- The balances of the involved accounts are those of the last accounts of the request. -/
lemma exists_parties (h : request.ComesTo order) :
    ∃ debit credit,
      Account.lastWith? order.debit request.accounts = some debit ∧
      Account.lastWith? order.credit request.accounts = some credit ∧
      (Balances.ofAccounts request.involved).get order.debit = debit.balance ∧
      (Balances.ofAccounts request.involved).get order.credit = credit.balance := by
  obtain ⟨debit, hdebit⟩ := Account.exists_lastWith? h.debit
  obtain ⟨credit, hcredit⟩ := Account.exists_lastWith? h.credit
  refine ⟨debit, credit, hdebit, hcredit, ?_, ?_⟩
  · apply Balances.get_ofAccounts
    rw [h.involved_eq, Account.lastWith?_withEither (.inl rfl), hdebit]
  · apply Balances.get_ofAccounts
    rw [h.involved_eq, Account.lastWith?_withEither (.inr rfl), hcredit]

end Request.ComesTo

/-! ## Entries -/

namespace Transaction

/-- The amount that the entries of a transaction show as moved. -/
def moved (t : Transaction) : Int :=
  if t.status = .successful then t.amount else 0

lemma moved_of_successful {t : Transaction} (h : t.status = .successful) : t.moved = t.amount :=
  if_pos h

lemma moved_of_pending {t : Transaction} (h : t.status = .pending) : t.moved = 0 := by
  rw [moved, h]
  rfl

lemma moved_ofOrder (order : Order) (accounts : List Account) (today : Day) :
    (ofOrder order accounts today).moved = if order.isDue today then order.amount else 0 := by
  rw [moved, ofOrder]
  cases order.isDue today <;> rfl

lemma status_ofOrder (order : Order) (accounts : List Account) (today : Day) :
    (ofOrder order accounts today).code = "AP00" ∧
        (ofOrder order accounts today).status = .successful ∨
      (ofOrder order accounts today).code = "AP02" ∧
        (ofOrder order accounts today).status = .pending := by
  rw [ofOrder]
  cases order.isDue today
  · exact .inr ⟨rfl, rfl⟩
  · exact .inl ⟨rfl, rfl⟩

/-- The balance of every entry is that of its id, less what was moved from it and with what was
moved to it. -/
lemma balance_of_mem {order : Order} {accounts : List Account} {today : Day} {e : Entry}
    (he : e ∈ (ofOrder order accounts today).accounts) :
    e.balance =
      (Balances.ofAccounts accounts).get e.id
        - (if e.id = order.debit then (ofOrder order accounts today).moved else 0)
        + (if e.id = order.credit then (ofOrder order accounts today).moved else 0) := by
  obtain ⟨a, _, rfl⟩ := List.mem_map.mp he
  rw [moved_ofOrder]
  cases order.isDue today with
  | true => exact Balances.get_transfer _ _ _ _ _
  | false => simp

lemma balance_of_ids {order : Order} {accounts : List Account} {today : Day} {debit credit : Int}
    (hne : order.debit ≠ order.credit)
    (hdebit : (Balances.ofAccounts accounts).get order.debit = debit)
    (hcredit : (Balances.ofAccounts accounts).get order.credit = credit) {e : Entry}
    (he : e ∈ (ofOrder order accounts today).accounts) :
    (e.id = order.debit → e.balance = debit - (ofOrder order accounts today).moved) ∧
      (e.id = order.credit → e.balance = credit + (ofOrder order accounts today).moved) := by
  have hbalance := balance_of_mem he
  constructor
  · intro hid
    rw [hid, if_pos rfl, if_neg hne, hdebit, Int.add_zero] at hbalance
    exact hbalance
  · intro hid
    rw [hid, if_neg (Ne.symm hne), if_pos rfl, hcredit, Int.sub_zero] at hbalance
    exact hbalance

/-- The transaction is settled between two accounts of a list. -/
structure Settles (t : Transaction) (accounts : List Account) (debit credit : Account) : Prop where
  debit_id : debit.id = t.debit
  debit_isLast : debit.IsLast accounts
  credit_id : credit.id = t.credit
  credit_isLast : credit.IsLast accounts
  ids_ne : debit.id ≠ credit.id
  one_le_amount : 1 ≤ t.amount
  amount_le : t.amount ≤ debit.balance
  /-- There is one entry for every account with one of the two ids, in the order of the list. -/
  entries : t.accounts.map (fun e => (e.id, e.balanceBefore)) =
    (Account.withEither t.debit t.credit accounts).map fun a => (a.id, a.balance)
  status : t.code = "AP00" ∧ t.status = .successful ∨ t.code = "AP02" ∧ t.status = .pending
  executed : t.code = "AP00" → ∀ e ∈ t.accounts,
    (e.id = t.debit → e.balance = debit.balance - t.amount) ∧
      (e.id = t.credit → e.balance = credit.balance + t.amount)
  deferred : t.code = "AP02" → ∀ e ∈ t.accounts,
    (e.id = t.debit → e.balance = debit.balance) ∧ (e.id = t.credit → e.balance = credit.balance)

namespace Settles

variable {t : Transaction} {accounts : List Account} {debit credit : Account}

lemma exists_account (h : t.Settles accounts debit credit) {e : Entry} (he : e ∈ t.accounts) :
    ∃ a ∈ accounts, a.id = e.id ∧ a.balance = e.balanceBefore ∧
      (e.id = t.debit ∨ e.id = t.credit) := by
  have hmem : (e.id, e.balanceBefore) ∈
      (Account.withEither t.debit t.credit accounts).map fun a => (a.id, a.balance) := by
    rw [← h.entries]
    exact List.mem_map_of_mem he
  obtain ⟨a, ha, heq⟩ := List.mem_map.mp hmem
  obtain ⟨hid, hbalance⟩ := Prod.mk.inj heq
  obtain ⟨ha, hids⟩ := Account.mem_withEither.mp ha
  rw [hid] at hids
  exact ⟨a, ha, hid, hbalance, hids⟩

lemma exists_entry (h : t.Settles accounts debit credit) {a : Account} (ha : a ∈ accounts)
    (hids : a.id = t.debit ∨ a.id = t.credit) :
    ∃ e ∈ t.accounts, e.id = a.id ∧ e.balanceBefore = a.balance := by
  have hmem : (a.id, a.balance) ∈ t.accounts.map fun e => (e.id, e.balanceBefore) := by
    rw [h.entries]
    exact List.mem_map_of_mem (Account.mem_withEither.mpr ⟨ha, hids⟩)
  obtain ⟨e, he, heq⟩ := List.mem_map.mp hmem
  obtain ⟨hid, hbalance⟩ := Prod.mk.inj heq
  exact ⟨e, he, hid, hbalance⟩

/-- Every entry has one of the two ids. -/
lemma id_of_mem (h : t.Settles accounts debit credit) {e : Entry} (he : e ∈ t.accounts) :
    e.id = t.debit ∨ e.id = t.credit := by
  obtain ⟨a, _, _, _, hids⟩ := h.exists_account he
  exact hids

lemma balance_eq (h : t.Settles accounts debit credit) {e : Entry} (he : e ∈ t.accounts) :
    e.balance = if e.id = t.debit then debit.balance - t.moved else credit.balance + t.moved := by
  rcases h.status with ⟨hcode, hstatus⟩ | ⟨hcode, hstatus⟩
  · obtain ⟨hd, hc⟩ := h.executed hcode e he
    rw [moved_of_successful hstatus]
    by_cases hid : e.id = t.debit
    · rw [if_pos hid, hd hid]
    · rw [if_neg hid, hc ((h.id_of_mem he).resolve_left hid)]
  · obtain ⟨hd, hc⟩ := h.deferred hcode e he
    rw [moved_of_pending hstatus]
    by_cases hid : e.id = t.debit
    · rw [if_pos hid, hd hid, Int.sub_zero]
    · rw [if_neg hid, hc ((h.id_of_mem he).resolve_left hid), Int.add_zero]

lemma balance_nonneg (h : t.Settles accounts debit credit) (hcredit : 0 ≤ credit.balance)
    {e : Entry} (he : e ∈ t.accounts) : 0 ≤ e.balance := by
  have hone := h.one_le_amount
  have hle := h.amount_le
  have hmoved : 0 ≤ t.moved ∧ t.moved ≤ t.amount := by
    rw [moved]
    split <;> omega
  rw [h.balance_eq he]
  split <;> omega

/-- What an entry of the one account and an entry of the other report together is what the two
accounts held. -/
lemma total_eq (h : t.Settles accounts debit credit) {e e' : Entry} (he : e ∈ t.accounts)
    (he' : e' ∈ t.accounts) (hid : e.id = t.debit) (hid' : e'.id = t.credit) :
    e.balance + e'.balance = debit.balance + credit.balance := by
  have hother : e'.id ≠ t.debit := by
    rw [hid', ← h.credit_id, ← h.debit_id]
    exact Ne.symm h.ids_ne
  rw [h.balance_eq he, h.balance_eq he', if_pos hid, if_neg hother]
  omega

end Settles

/-- The transaction of an order settles between the last accounts with the ids of the order. -/
lemma exists_settles {request : Request} {order : Order} (h : request.ComesTo order)
    (today : Day) :
    ∃ debit credit,
      (ofOrder order request.involved today).Settles request.accounts debit credit := by
  obtain ⟨debit, credit, hdebit, hcredit, hdebitBalance, hcreditBalance⟩ := h.exists_parties
  obtain ⟨hdebitId, hdebitLast⟩ := Account.lastWith?_eq_some_iff.mp hdebit
  obtain ⟨hcreditId, hcreditLast⟩ := Account.lastWith?_eq_some_iff.mp hcredit
  have hne := h.passes.debit_ne_credit
  have hfunds := h.funds
  rw [hdebitBalance] at hfunds
  have hbalance : ∀ e ∈ (ofOrder order request.involved today).accounts, _ :=
    fun e he => balance_of_ids hne hdebitBalance hcreditBalance he
  have hstatus := status_ofOrder order request.involved today
  refine ⟨debit, credit, hdebitId, hdebitLast, hcreditId, hcreditLast, ?_,
    h.passes.one_le_amount, hfunds, ?_, hstatus, ?_, ?_⟩
  · rw [hdebitId, hcreditId]
    exact hne
  · rw [h.involved_eq]
    exact List.map_map
  · intro hcode
    rcases hstatus with ⟨_, hsuccessful⟩ | ⟨hother, _⟩
    · rw [moved_of_successful hsuccessful] at hbalance
      exact hbalance
    · rw [hother] at hcode
      exact absurd hcode (by decide)
  · intro hcode
    rcases hstatus with ⟨hother, _⟩ | ⟨_, hpending⟩
    · rw [hother] at hcode
      exact absurd hcode (by decide)
    · simp only [moved_of_pending hpending, Int.sub_zero, Int.add_zero] at hbalance
      exact hbalance

end Transaction

/-- Every transaction of an accepted request is settled between the last accounts with its ids.  No
balance gets below zero, and the two accounts together keep what they held. -/
theorem clear_settles {request : Request} (haccepted : request.Accepted) {today : Day}
    {t : Transaction} (h : (clear request today).outcome = .ok t) :
    ∃ debit credit, t.Settles request.accounts debit credit ∧
      (∀ e ∈ t.accounts, 0 ≤ e.balance) ∧
      ∀ e ∈ t.accounts, ∀ e' ∈ t.accounts, e.id = t.debit → e'.id = t.credit →
        e.balance + e'.balance = debit.balance + credit.balance := by
  obtain ⟨order, hcomes, rfl⟩ := exists_order_of_transaction h
  obtain ⟨debit, credit, hsettles⟩ := Transaction.exists_settles hcomes today
  have hcredit : 0 ≤ credit.balance := haccepted.balance_nonneg hsettles.credit_isLast.mem
  refine ⟨debit, credit, hsettles, fun e he => hsettles.balance_nonneg hcredit he, ?_⟩
  intro e he e' he' hid hid'
  exact hsettles.total_eq he he' hid hid'

/-- Three accounts, two of them with one id, and a transfer for the first day of 2030. -/
def duplicated : Request where
  accounts := [⟨"a", 10, "USD"⟩, ⟨"a", 5, "USD"⟩, ⟨"b", 0, "USD"⟩]
  text := "DEBIT 1 USD FROM ACCOUNT a FOR CREDIT TO ACCOUNT b ON 2030-01-01"

lemma duplicated_accepted : duplicated.Accepted :=
  ⟨.direct, duplicated.payload, rfl⟩

/-- What `duplicated` comes to on a day. -/
def duplicatedTransaction (today : Day) : Transaction :=
  .ofOrder ⟨.debit, 1, "USD", "a", "b", some ⟨2030, 1, 1, by decide⟩⟩ duplicated.accounts today

lemma clear_duplicated (today : Day) :
    (clear duplicated today).outcome = .ok (duplicatedTransaction today) := by
  have hjudge : duplicated.judge =
      .ok ⟨.debit, 1, "USD", "a", "b", some ⟨2030, 1, 1, by decide⟩⟩ := by decide +kernel
  have hinvolved : duplicated.involved = duplicated.accounts := by decide +kernel
  rw [clear_eq, hjudge, Request.report, hinvolved]
  rfl

/-- On its day the transfer is carried out, and both entries with the one id report what is left on
the last of the two accounts. -/
theorem clear_settles_duplicated :
    ∃ t, (clear duplicated ⟨2030, 1, 1, by decide⟩).outcome = .ok t ∧ t.code = "AP00" ∧
      t.accounts = [⟨"a", 4, 10, "USD"⟩, ⟨"a", 4, 5, "USD"⟩, ⟨"b", 1, 0, "USD"⟩] ∧
      ∃ debit credit, t.Settles duplicated.accounts debit credit ∧
        (∀ e ∈ t.accounts, 0 ≤ e.balance) ∧
        ∀ e ∈ t.accounts, ∀ e' ∈ t.accounts, e.id = t.debit → e'.id = t.credit →
          e.balance + e'.balance = debit.balance + credit.balance :=
  ⟨_, clear_duplicated _, by decide +kernel, by decide +kernel,
    clear_settles duplicated_accepted (clear_duplicated _)⟩

/-! ## The sum over all entries -/

namespace Account

/-- The accounts of a list with an id. -/
def allWith (id : String) (accounts : List Account) : List Account :=
  accounts.filter (·.id == id)

lemma mem_allWith {id : String} {accounts : List Account} {a : Account} :
    a ∈ allWith id accounts ↔ a ∈ accounts ∧ a.id = id := by
  rw [allWith, List.mem_filter, beq_iff_eq]

/-- An account that is the only one with its id stands alone. -/
lemma allWith_eq_singleton {id : String} {accounts : List Account} {a : Account}
    (ha : a ∈ accounts) (hid : a.id = id)
    (hnodup : ((allWith id accounts).map (·.id)).Nodup) : allWith id accounts = [a] := by
  have hmem : a ∈ allWith id accounts := mem_allWith.mpr ⟨ha, hid⟩
  have hids : ∀ b ∈ allWith id accounts, b.id = id := fun b hb => (mem_allWith.mp hb).2
  revert hmem hids hnodup
  rcases allWith id accounts with _ | ⟨b, _ | ⟨c, later⟩⟩
  · intro _ hmem
    cases hmem
  · intro _ hmem _
    rw [List.mem_singleton.mp hmem]
  · intro hnodup _ hids
    rw [List.map_cons, List.map_cons, hids b (by simp), hids c (by simp)] at hnodup
    simp at hnodup

/-- What the accounts with an id would hold more if each held what the last of them does. -/
def shortfall (last : Account) (accounts : List Account) : Int :=
  ((allWith last.id accounts).map fun a => last.balance - a.balance).sum

lemma sum_withEither {debit credit : String} (hne : debit ≠ credit) (f : Account → Int)
    (accounts : List Account) :
    ((withEither debit credit accounts).map f).sum =
      ((allWith debit accounts).map f).sum + ((allWith credit accounts).map f).sum := by
  induction accounts with
  | nil => rfl
  | cons a later ih =>
    rw [withEither, allWith, allWith] at *
    by_cases hdebit : a.id = debit
    · have hcredit : ¬ a.id = credit := fun h => hne (hdebit.symm.trans h)
      simp only [List.filter_cons, beq_iff_eq, Bool.or_eq_true, hdebit, true_or, if_true,
        if_neg hne, List.map_cons, List.sum_cons, ih]
      omega
    · by_cases hcredit : a.id = credit
      · simp only [List.filter_cons, beq_iff_eq, Bool.or_eq_true, hcredit, or_true, if_true,
          if_neg (Ne.symm hne), List.map_cons, List.sum_cons, ih]
        omega
      · simp only [List.filter_cons, beq_iff_eq, Bool.or_eq_true, hdebit, hcredit, or_self,
          if_false, ih]

lemma sum_map_add (f : Account → Int) (shift : Int) (accounts : List Account) :
    (accounts.map fun a => f a + shift).sum = (accounts.map f).sum + shift * accounts.length := by
  induction accounts with
  | nil => simp
  | cons a later ih =>
    rw [List.map_cons, List.map_cons, List.sum_cons, List.sum_cons, ih, List.length_cons,
      Int.natCast_succ, Int.mul_add, Int.mul_one]
    omega

end Account

namespace Transaction

/-- What the entries of a transaction report adds up to what they say was there before, and a
pending transaction changes no balance. -/
def Conserves (t : Transaction) : Prop :=
  (t.accounts.map (·.balance)).sum = (t.accounts.map (·.balanceBefore)).sum ∧
    (t.status = .pending → ∀ e ∈ t.accounts, e.balance = e.balanceBefore)

lemma sum_balance_sub (entries : List Entry) :
    (entries.map fun e => e.balance - e.balanceBefore).sum =
      (entries.map (·.balance)).sum - (entries.map (·.balanceBefore)).sum := by
  induction entries with
  | nil => rfl
  | cons e later ih =>
    simp only [List.map_cons, List.sum_cons, ih]
    omega

/-- What the entries of a transaction report beyond what was there: earlier accounts with an id are
reported as if they held what the last does, and the amount counts once for every entry. -/
lemma Settles.sum_eq {t : Transaction} {accounts : List Account} {debit credit : Account}
    (h : t.Settles accounts debit credit) :
    (t.accounts.map fun e => e.balance - e.balanceBefore).sum =
      debit.shortfall accounts + credit.shortfall accounts +
        t.moved * ((Account.allWith t.credit accounts).length -
          (Account.allWith t.debit accounts).length) := by
  -- What an entry adds depends on its id and on the balance before alone, so that the accounts
  -- may take the place of the entries.
  let change (p : String × Int) : Int :=
    (if p.1 = t.debit then debit.balance - t.moved else credit.balance + t.moved) - p.2
  have hne : t.debit ≠ t.credit := by
    rw [← h.debit_id, ← h.credit_id]
    exact h.ids_ne
  have hentries : (t.accounts.map fun e => e.balance - e.balanceBefore) =
      (t.accounts.map fun e => (e.id, e.balanceBefore)).map change := by
    rw [List.map_map]
    refine List.map_congr_left fun e he => ?_
    rw [h.balance_eq he]
    rfl
  have hdebits : ((Account.allWith t.debit accounts).map fun a => change (a.id, a.balance)) =
      (Account.allWith debit.id accounts).map fun a => debit.balance - a.balance + -t.moved := by
    rw [h.debit_id]
    refine List.map_congr_left fun a ha => ?_
    have hid : a.id = t.debit := beq_iff_eq.mp (List.mem_filter.mp ha).2
    dsimp only [change]
    rw [if_pos hid]
    omega
  have hcredits : ((Account.allWith t.credit accounts).map fun a => change (a.id, a.balance)) =
      (Account.allWith credit.id accounts).map fun a => credit.balance - a.balance + t.moved := by
    rw [h.credit_id]
    refine List.map_congr_left fun a ha => ?_
    have hid : a.id = t.credit := beq_iff_eq.mp (List.mem_filter.mp ha).2
    dsimp only [change]
    rw [if_neg (hid ▸ Ne.symm hne)]
    omega
  rw [hentries, h.entries, List.map_map]
  change ((Account.withEither _ _ _).map fun a => change (a.id, a.balance)).sum = _
  rw [Account.sum_withEither hne, hdebits, hcredits, Account.sum_map_add, Account.sum_map_add,
    h.debit_id, h.credit_id, Int.mul_sub, Account.shortfall, Account.shortfall, h.debit_id,
    h.credit_id, Int.neg_mul]
  omega

/-- A pending transaction keeps every balance exactly when all accounts with one id hold the same. -/
lemma Settles.unchanged_iff {t : Transaction} {accounts : List Account} {debit credit : Account}
    (h : t.Settles accounts debit credit) (hpending : t.code = "AP02") :
    (∀ e ∈ t.accounts, e.balance = e.balanceBefore) ↔
      ∀ a ∈ accounts, (a.id = t.debit → a.balance = debit.balance) ∧
        (a.id = t.credit → a.balance = credit.balance) := by
  constructor
  · intro hunchanged a ha
    constructor
    · intro hid
      obtain ⟨e, he, heid, hbefore⟩ := h.exists_entry ha (.inl hid)
      rw [← hbefore, ← hunchanged e he]
      exact (h.deferred hpending e he).1 (heid.trans hid)
    · intro hid
      obtain ⟨e, he, heid, hbefore⟩ := h.exists_entry ha (.inr hid)
      rw [← hbefore, ← hunchanged e he]
      exact (h.deferred hpending e he).2 (heid.trans hid)
  · intro hsame e he
    obtain ⟨a, ha, hid, hbalance, hids⟩ := h.exists_account he
    rw [← hbalance]
    rcases hids with hdebit | hcredit
    · rw [(h.deferred hpending e he).1 hdebit, (hsame a ha).1 (hid.trans hdebit)]
    · rw [(h.deferred hpending e he).2 hcredit, (hsame a ha).2 (hid.trans hcredit)]

lemma Settles.conserves_iff {t : Transaction} {accounts : List Account} {debit credit : Account}
    (h : t.Settles accounts debit credit) :
    t.Conserves ↔
      (t.status = .pending → ∀ a ∈ accounts, (a.id = t.debit → a.balance = debit.balance) ∧
        (a.id = t.credit → a.balance = credit.balance)) ∧
      (t.status = .successful → debit.shortfall accounts + credit.shortfall accounts =
        t.amount * ((Account.allWith t.debit accounts).length -
          (Account.allWith t.credit accounts).length)) := by
  rcases h.status with ⟨hcode, hstatus⟩ | ⟨hcode, hstatus⟩
  · have hsum := h.sum_eq
    rw [sum_balance_sub, moved_of_successful hstatus, Int.mul_sub] at hsum
    rw [Conserves, hstatus, Int.mul_sub]
    constructor
    · rintro ⟨hequal, _⟩
      refine ⟨fun hpending => (nomatch hpending), fun _ => ?_⟩
      omega
    · rintro ⟨_, hequal⟩
      have := hequal rfl
      refine ⟨?_, fun hpending => (nomatch hpending)⟩
      omega
  · rw [Conserves, hstatus, h.unchanged_iff hcode]
    constructor
    · rintro ⟨_, hunchanged⟩
      exact ⟨hunchanged, fun hsuccessful => (nomatch hsuccessful)⟩
    · rintro ⟨hsame, _⟩
      refine ⟨?_, hsame⟩
      rw [List.map_congr_left ((h.unchanged_iff hcode).mpr (hsame rfl))]

/-- Where every account that a transaction names is the only one with its id, it conserves. -/
lemma Settles.conserves_of_nodup {t : Transaction} {accounts : List Account}
    {debit credit : Account} (h : t.Settles accounts debit credit)
    (hnodup : ((Account.withEither t.debit t.credit accounts).map (·.id)).Nodup) :
    t.Conserves := by
  have hdebits : Account.allWith t.debit accounts = [debit] := by
    refine Account.allWith_eq_singleton h.debit_isLast.mem h.debit_id (hnodup.sublist ?_)
    exact (List.monotone_filter_right accounts fun a ha => by simp_all).map _
  have hcredits : Account.allWith t.credit accounts = [credit] := by
    refine Account.allWith_eq_singleton h.credit_isLast.mem h.credit_id (hnodup.sublist ?_)
    exact (List.monotone_filter_right accounts fun a ha => by simp_all).map _
  rw [h.conserves_iff, hdebits, hcredits]
  constructor
  · intro _ a ha
    constructor
    · intro hid
      have hmem : a ∈ Account.allWith t.debit accounts := Account.mem_allWith.mpr ⟨ha, hid⟩
      rw [hdebits, List.mem_singleton] at hmem
      rw [hmem]
    · intro hid
      have hmem : a ∈ Account.allWith t.credit accounts := Account.mem_allWith.mpr ⟨ha, hid⟩
      rw [hcredits, List.mem_singleton] at hmem
      rw [hmem]
  · intro _
    rw [Account.shortfall, Account.shortfall, h.debit_id, h.credit_id, hdebits, hcredits]
    simp

end Transaction

/-- A transaction conserves what its entries report exactly under a condition on the accounts with
its two ids.  If it is pending, each of them holds what the last with its id does.  If it was carried
out, what the earlier ones lack makes up for the entries in which the amount counts again. -/
theorem clear_conserves_iff {request : Request} {today : Day} {t : Transaction}
    (h : (clear request today).outcome = .ok t) :
    ∃ debit credit, t.Settles request.accounts debit credit ∧
      (t.Conserves ↔
        (t.status = .pending → ∀ a ∈ request.accounts,
          (a.id = t.debit → a.balance = debit.balance) ∧
            (a.id = t.credit → a.balance = credit.balance)) ∧
        (t.status = .successful →
          debit.shortfall request.accounts + credit.shortfall request.accounts =
            t.amount * ((Account.allWith t.debit request.accounts).length -
              (Account.allWith t.credit request.accounts).length))) ∧
      (((Account.withEither t.debit t.credit request.accounts).map (·.id)).Nodup →
        t.Conserves) := by
  obtain ⟨order, hcomes, rfl⟩ := exists_order_of_transaction h
  obtain ⟨debit, credit, hsettles⟩ := Transaction.exists_settles hcomes today
  exact ⟨debit, credit, hsettles, hsettles.conserves_iff, hsettles.conserves_of_nodup⟩

theorem clear_conserves_iff_duplicated :
    ∃ t, (clear duplicated ⟨2030, 1, 1, by decide⟩).outcome = .ok t ∧
      ∃ debit credit, t.Settles duplicated.accounts debit credit ∧
        (t.Conserves ↔
          (t.status = .pending → ∀ a ∈ duplicated.accounts,
            (a.id = t.debit → a.balance = debit.balance) ∧
              (a.id = t.credit → a.balance = credit.balance)) ∧
          (t.status = .successful →
            debit.shortfall duplicated.accounts + credit.shortfall duplicated.accounts =
              t.amount * ((Account.allWith t.debit duplicated.accounts).length -
                (Account.allWith t.credit duplicated.accounts).length))) ∧
        (((Account.withEither t.debit t.credit duplicated.accounts).map (·.id)).Nodup →
          t.Conserves) :=
  ⟨_, clear_duplicated _, clear_conserves_iff (clear_duplicated _)⟩

/-- Before its day the transfer moves nothing, but the first account is reported with the balance of
the second. -/
theorem duplicated_not_conserved :
    duplicated.Accepted ∧
      ∃ t, (clear duplicated ⟨2026, 1, 1, by decide⟩).outcome = .ok t ∧ t.status = .pending ∧
        ¬ t.Conserves := by
  refine ⟨duplicated_accepted, _, clear_duplicated _, by decide +kernel, fun hconserves => ?_⟩
  exact absurd hconserves.1 (by decide +kernel)

end Remittance
