import Mathlib.Data.List.Forall2
import Remittance.Proofs.Conservation
import Remittance.Proofs.Timing

/-!
# The outcome of a settlement

`Instruction.SettlesTo` lists all that can become of an order: six errors, each after the ones
before it, and the two reports of an order that is carried out or set down.  `settle_eq_iff` says
that the settlement gives the outcome in the list and no other.

Nothing is assumed of the order or of the accounts.  The debit and the credit id may be one, the
amount may be any integer, and ids that the order does not name or that come more than once may be
among the accounts.  The last error is there because of amounts that no screening lets through or
no account holds: one with more digits than are written cannot be shown in the note about the
settlement (`settle_immense`).
-/

namespace Remittance

/-! ## Reports -/

/-- What the report of an order shows of an account, when the balances are kept by id and an amount
was moved: the balance is that of the last account with the id, less the amount if the id is the
debit id and with the amount if it is the credit id. -/
structure Instruction.ShowsAs (order : Order) (accounts : List Account) (moved : Int) (a : Account)
    (e : Entry) : Prop where
  id : e.id = a.id
  balanceBefore : e.balanceBefore = a.balance
  currency : e.currency = Text.upper a.currency
  balance : ∃ last : Account, last.id = a.id ∧ last.IsLast accounts ∧
    e.balance = last.balance - (if a.id = order.debit then moved else 0)
      + (if a.id = order.credit then moved else 0)

/-- The transaction is a report of the order with an amount moved, and has one entry for each
account in the order of the list. -/
structure Transaction.Reports (t : Transaction) (order : Order) (accounts : List Account)
    (moved : Int) : Prop where
  kind : t.kind = order.kind.keyword
  amount : t.amount = order.amount
  currency : t.currency = order.currency
  debit : t.debit = order.debit
  credit : t.credit = order.credit
  entries : List.Forall₂ (order.ShowsAs accounts moved) accounts t.accounts

section Reports

variable {order : Order} {accounts : List Account} {moved : Int}

lemma Instruction.rightUnique_showsAs : Relator.RightUnique (order.ShowsAs accounts moved) := by
  intro a e f he hf
  obtain ⟨last, hid, hlast, hbalance⟩ := he.balance
  obtain ⟨last', hid', hlast', hbalance'⟩ := hf.balance
  obtain rfl := hlast.eq_of_id hlast' (hid.trans hid'.symm)
  rw [Entry.mk.injEq]
  exact ⟨he.id.trans hf.id.symm, hbalance.trans hbalance'.symm,
    he.balanceBefore.trans hf.balanceBefore.symm, he.currency.trans hf.currency.symm⟩

namespace Transaction

variable {t u : Transaction}

/-- Two reports of an order with the same amount moved differ at most in what they say of the
day. -/
lemma Reports.eq (ht : t.Reports order accounts moved) (hu : u.Reports order accounts moved)
    (hcode : t.code = u.code) (hstatus : t.status = u.status)
    (hexecuteBy : t.executeBy = u.executeBy) : t = u := by
  have hentries : t.accounts = u.accounts :=
    Instruction.rightUnique_showsAs.forall₂ ht.entries hu.entries
  rw [Transaction.mk.injEq]
  exact ⟨ht.kind.trans hu.kind.symm, ht.amount.trans hu.amount.symm,
    ht.currency.trans hu.currency.symm, ht.debit.trans hu.debit.symm,
    ht.credit.trans hu.credit.symm, hexecuteBy, hstatus, hcode, hentries⟩

lemma reports_ofOrder (order : Order) (accounts : List Account) (today : Day) :
    (ofOrder order accounts today).Reports order accounts
      (if order.isDue today then order.amount else 0) := by
  refine ⟨rfl, rfl, rfl, rfl, rfl, ?_⟩
  apply List.forall₂_map_right_iff.mpr
  apply List.forall₂_same.mpr
  intro a ha
  obtain ⟨last, hlast⟩ := Account.exists_lastWith? ⟨a, ha, rfl⟩
  obtain ⟨hid, hisLast⟩ := Account.lastWith?_eq_some_iff.mp hlast
  refine ⟨rfl, rfl, rfl, last, hid, hisLast, ?_⟩
  rw [← moved_ofOrder order accounts today, ← Balances.get_ofAccounts hlast]
  exact balance_of_mem (List.mem_map_of_mem ha)

lemma reports_of_isDue {today : Day} (h : order.isDue today = true) :
    (ofOrder order accounts today).Reports order accounts order.amount := by
  have hreports := reports_ofOrder order accounts today
  rwa [h, if_pos rfl] at hreports

lemma reports_of_not_isDue {today : Day} (h : order.isDue today = false) :
    (ofOrder order accounts today).Reports order accounts 0 := by
  have hreports := reports_ofOrder order accounts today
  rwa [h, if_neg Bool.false_ne_true] at hreports

/-- What is moved from an id to itself changes no balance. -/
lemma Reports.balance_of_ids_eq (h : t.Reports order accounts moved)
    (hids : order.debit = order.credit) :
    ∀ e ∈ t.accounts, ∃ last : Account,
      last.id = e.id ∧ last.IsLast accounts ∧ e.balance = last.balance := by
  refine forall_mem_of_forall₂ (fun a e hshows => ?_) h.entries
  obtain ⟨last, hid, hlast, hbalance⟩ := hshows.balance
  rw [hids, Int.sub_add_cancel] at hbalance
  exact ⟨last, hid.trans hshows.id.symm, hlast, hbalance⟩

end Transaction

end Reports

/-! ## Outcomes -/

namespace Instruction

/-- The order waits: its day comes after today. -/
def Waits (order : Order) (today : Day) : Prop :=
  ∃ day, order.date = some day ∧ today.Precedes day

/-- The first account is in the currency of the order. -/
def FirstInCurrency (order : Order) (accounts : List Account) : Prop :=
  accounts.head?.map (·.currency) = some order.currency

/-- The accounts of an order are there, the first of the list is in its currency, and the last
account with the debit id covers the amount. -/
structure CoveredBy (order : Order) (accounts : List Account) : Prop where
  currency : order.FirstInCurrency accounts
  debit : ∃ last : Account, last.id = order.debit ∧ last.IsLast accounts ∧
    order.amount ≤ last.balance
  credit : ∃ a ∈ accounts, a.id = order.credit

/-- All that can become of an order that is settled against a list of accounts. -/
inductive SettlesTo (order : Order) (accounts : List Account) (today : Day) :
    Except StageError Transaction → Prop
  | noAccounts (hnil : accounts = []) : SettlesTo order accounts today (.error (.fault .noAccounts))
  | otherCurrency {first : Account} {later : List Account} (hfirst : accounts = first :: later)
      (hne : first.currency ≠ order.currency) :
      SettlesTo order accounts today
        (.error (.rejected (.currencyMismatch first.currency order.currency)))
  | noDebit (hcurrency : order.FirstInCurrency accounts)
      (hnone : ∀ a ∈ accounts, a.id ≠ order.debit) :
      SettlesTo order accounts today (.error (.fault (.unknownAccount order.debit)))
  | noCredit (hcurrency : order.FirstInCurrency accounts)
      (hdebit : ∃ a ∈ accounts, a.id = order.debit) (hnone : ∀ a ∈ accounts, a.id ≠ order.credit) :
      SettlesTo order accounts today (.error (.fault (.unknownAccount order.credit)))
  | overdrawn {last : Account} (hcurrency : order.FirstInCurrency accounts)
      (hid : last.id = order.debit) (hlast : last.IsLast accounts)
      (hcredit : ∃ a ∈ accounts, a.id = order.credit) (hfunds : last.balance < order.amount) :
      SettlesTo order accounts today (.error (.rejected (.insufficientFunds order.debit)))
  | unwritten (hcovered : order.CoveredBy accounts)
      (hdigits : 10 ^ Numeral.digitLimit ≤ order.amount.natAbs) :
      SettlesTo order accounts today (.error (.fault .tooManyDigits))
  | executed {t : Transaction} (hcovered : order.CoveredBy accounts)
      (hdigits : order.amount.natAbs < 10 ^ Numeral.digitLimit) (hdue : ¬ order.Waits today)
      (hexecuted : t.IsExecuted) (hreports : t.Reports order accounts order.amount) :
      SettlesTo order accounts today (.ok t)
  | deferred {t : Transaction} {day : Day} (hcovered : order.CoveredBy accounts)
      (hdigits : order.amount.natAbs < 10 ^ Numeral.digitLimit)
      (hday : order.date = some day) (hlater : today.Precedes day) (hdeferred : t.IsDeferredTo day)
      (hreports : t.Reports order accounts 0) :
      SettlesTo order accounts today (.ok t)

section Settle

variable {order : Order} {accounts : List Account} {today : Day}

lemma isDue_iff : order.isDue today = true ↔ ¬ order.Waits today := by
  rw [Waits, ← isDue_eq_false_iff, Bool.not_eq_false]

/-- Once the currency of the first account is right, the parties are looked for. -/
lemma parties_eq (hcurrency : order.FirstInCurrency accounts) :
    order.parties accounts =
      match Account.lastWith? order.debit accounts, Account.lastWith? order.credit accounts with
      | none, _ => .error (.fault (.unknownAccount order.debit))
      | some _, none => .error (.fault (.unknownAccount order.credit))
      | some debit, some credit => .ok (debit, credit) := by
  cases accounts with
  | nil => cases hcurrency
  | cons first later =>
    have heq : first.currency = order.currency := Option.some.inj hcurrency
    apply if_neg
    exact not_not.mpr heq.symm

lemma settle_of_no_debit (hcurrency : order.FirstInCurrency accounts)
    (hdebit : Account.lastWith? order.debit accounts = none) :
    settle order accounts today = .error (.fault (.unknownAccount order.debit)) := by
  rw [settle, parties_eq hcurrency, hdebit]

lemma settle_of_no_credit {debit : Account} (hcurrency : order.FirstInCurrency accounts)
    (hdebit : Account.lastWith? order.debit accounts = some debit)
    (hcredit : Account.lastWith? order.credit accounts = none) :
    settle order accounts today = .error (.fault (.unknownAccount order.credit)) := by
  rw [settle, parties_eq hcurrency, hdebit, hcredit]

/-- Between two accounts that are there the settlement depends on the balance of the first and on
the amount. -/
lemma settle_of_parties {debit credit : Account} (hcurrency : order.FirstInCurrency accounts)
    (hdebit : Account.lastWith? order.debit accounts = some debit)
    (hcredit : Account.lastWith? order.credit accounts = some credit) :
    settle order accounts today =
      if debit.balance < order.amount then .error (.rejected (.insufficientFunds order.debit))
      else if Numeral.isWritable order.amount then .ok (.ofOrder order accounts today)
      else .error (.fault .tooManyDigits) := by
  rw [settle, parties_eq hcurrency, hdebit, hcredit]

/-- The settlement of an order that is covered depends on the amount alone. -/
lemma CoveredBy.settle_eq_ite (h : order.CoveredBy accounts) :
    settle order accounts today =
      if Numeral.isWritable order.amount then .ok (.ofOrder order accounts today)
      else .error (.fault .tooManyDigits) := by
  obtain ⟨last, hid, hlast, hfunds⟩ := h.debit
  obtain ⟨credit, hcredit⟩ := Account.exists_lastWith? h.credit
  rw [settle_of_parties h.currency (Account.lastWith?_eq_some_iff.mpr ⟨hid, hlast⟩) hcredit,
    if_neg (Int.not_lt.mpr hfunds)]

lemma CoveredBy.settle_of_lt (h : order.CoveredBy accounts)
    (hdigits : order.amount.natAbs < 10 ^ Numeral.digitLimit) :
    settle order accounts today = .ok (.ofOrder order accounts today) := by
  rw [h.settle_eq_ite, if_pos (Numeral.isWritable_iff.mpr hdigits)]

lemma CoveredBy.settle_of_le (h : order.CoveredBy accounts)
    (hdigits : 10 ^ Numeral.digitLimit ≤ order.amount.natAbs) :
    settle order accounts today = .error (.fault .tooManyDigits) := by
  rw [h.settle_eq_ite, Numeral.isWritable_eq_false_iff.mpr hdigits, if_neg Bool.false_ne_true]

/-- An order that is covered is carried out or set down, unless its amount cannot be written. -/
lemma CoveredBy.settlesTo (h : order.CoveredBy accounts) :
    order.SettlesTo accounts today (settle order accounts today) := by
  rcases Nat.lt_or_ge order.amount.natAbs (10 ^ Numeral.digitLimit) with hdigits | hdigits
  · rw [h.settle_of_lt hdigits]
    cases hdue : order.isDue today with
    | true =>
      exact .executed h hdigits (isDue_iff.mp hdue) (Transaction.isExecuted_ofOrder hdue)
        (Transaction.reports_of_isDue hdue)
    | false =>
      obtain ⟨day, hday, hlater⟩ := isDue_eq_false_iff.mp hdue
      exact .deferred h hdigits hday hlater (Transaction.isDeferredTo_ofOrder hdue hday)
        (Transaction.reports_of_not_isDue hdue)
  · rw [h.settle_of_le hdigits]
    exact .unwritten h hdigits

/-- The outcome of a settlement is one of those listed. -/
lemma settlesTo_settle (order : Order) (accounts : List Account) (today : Day) :
    order.SettlesTo accounts today (settle order accounts today) := by
  rcases accounts with _ | ⟨first, later⟩
  · exact .noAccounts rfl
  by_cases hne : first.currency ≠ order.currency
  · rw [settle, parties, if_pos (Ne.symm hne)]
    exact .otherCurrency rfl hne
  have hcurrency : order.FirstInCurrency (first :: later) := congrArg some (not_not.mp hne)
  cases hdebit : Account.lastWith? order.debit (first :: later) with
  | none =>
    rw [settle_of_no_debit hcurrency hdebit]
    exact .noDebit hcurrency (Account.lastWith?_eq_none_iff.mp hdebit)
  | some debit =>
    obtain ⟨hid, hlast⟩ := Account.lastWith?_eq_some_iff.mp hdebit
    cases hcredit : Account.lastWith? order.credit (first :: later) with
    | none =>
      rw [settle_of_no_credit hcurrency hdebit hcredit]
      exact .noCredit hcurrency ⟨debit, hlast.mem, hid⟩ (Account.lastWith?_eq_none_iff.mp hcredit)
    | some credit =>
      obtain ⟨hcreditId, hcreditLast⟩ := Account.lastWith?_eq_some_iff.mp hcredit
      have hexists : ∃ a ∈ first :: later, a.id = order.credit :=
        ⟨credit, hcreditLast.mem, hcreditId⟩
      by_cases hfunds : debit.balance < order.amount
      · rw [settle_of_parties hcurrency hdebit hcredit, if_pos hfunds]
        exact .overdrawn hcurrency hid hlast hexists hfunds
      · have hcovered : order.CoveredBy (first :: later) :=
          ⟨hcurrency, ⟨debit, hid, hlast, Int.not_lt.mp hfunds⟩, hexists⟩
        exact hcovered.settlesTo

/-- Each outcome in the list is the one that the settlement gives. -/
lemma SettlesTo.settle_eq {x : Except StageError Transaction}
    (h : order.SettlesTo accounts today x) : settle order accounts today = x := by
  cases h with
  | noAccounts hnil =>
    rw [hnil]
    rfl
  | otherCurrency hfirst hne => rw [hfirst, settle, parties, if_pos (Ne.symm hne)]
  | noDebit hcurrency hnone =>
    exact settle_of_no_debit hcurrency (Account.lastWith?_eq_none_iff.mpr hnone)
  | noCredit hcurrency hdebit hnone =>
    obtain ⟨debit, hdebit⟩ := Account.exists_lastWith? hdebit
    exact settle_of_no_credit hcurrency hdebit (Account.lastWith?_eq_none_iff.mpr hnone)
  | overdrawn hcurrency hid hlast hcredit hfunds =>
    obtain ⟨credit, hcredit⟩ := Account.exists_lastWith? hcredit
    rw [settle_of_parties hcurrency (Account.lastWith?_eq_some_iff.mpr ⟨hid, hlast⟩) hcredit,
      if_pos hfunds]
  | unwritten hcovered hdigits =>
    exact hcovered.settle_of_le hdigits
  | executed hcovered hdigits hdue hexecuted hreports =>
    have hdue := isDue_iff.mpr hdue
    have hofOrder : (Transaction.ofOrder order accounts today).IsExecuted :=
      Transaction.isExecuted_ofOrder hdue
    rw [hcovered.settle_of_lt hdigits,
      (Transaction.reports_of_isDue hdue).eq hreports
      (hofOrder.code.trans hexecuted.code.symm) (hofOrder.status.trans hexecuted.status.symm)
      (hofOrder.executeBy.trans hexecuted.executeBy.symm)]
  | @deferred t day hcovered hdigits hday hlater hdeferred hreports =>
    have hdue := isDue_eq_false_iff.mpr ⟨day, hday, hlater⟩
    have hofOrder : (Transaction.ofOrder order accounts today).IsDeferredTo day :=
      Transaction.isDeferredTo_ofOrder hdue hday
    rw [hcovered.settle_of_lt hdigits,
      (Transaction.reports_of_not_isDue hdue).eq hreports
      (hofOrder.code.trans hdeferred.code.symm) (hofOrder.status.trans hdeferred.status.symm)
      (hofOrder.executeBy.trans hdeferred.executeBy.symm)]

end Settle

end Instruction

/-- The settlement gives exactly the listed outcome, a report or an error.  Where the debit and the
credit id are one, every entry reports the balance that the last account with its id had. -/
theorem settle_eq_iff (order : Order) (accounts : List Account) (today : Day) :
    (∀ x, settle order accounts today = x ↔ order.SettlesTo accounts today x) ∧
      (order.debit = order.credit → ∀ t, settle order accounts today = .ok t →
        ∀ e ∈ t.accounts, ∃ last : Account,
          last.id = e.id ∧ last.IsLast accounts ∧ e.balance = last.balance) := by
  have houtcome : order.SettlesTo accounts today (settle order accounts today) :=
    Instruction.settlesTo_settle order accounts today
  constructor
  · intro x
    constructor
    · intro hx
      rw [← hx]
      exact houtcome
    · exact Instruction.SettlesTo.settle_eq
  · intro hids t ht
    rw [ht] at houtcome
    cases houtcome with
    | executed _ _ _ _ hreports => exact hreports.balance_of_ids_eq hids
    | deferred _ _ _ _ _ hreports => exact hreports.balance_of_ids_eq hids

/-- A negative amount, to be moved from an id to itself. -/
def pointless : Order :=
  ⟨.debit, -3, "USD", "a", "a", none⟩

/-- The order is carried out although there is nothing on the account, and the earlier account with
the id is reported with the balance of the last. -/
theorem settle_eq_iff_pointless :
    ∃ t, settle pointless [⟨"a", 7, "USD"⟩, ⟨"a", 0, "usd"⟩] ⟨2026, 1, 1, by decide⟩ = .ok t ∧
      t.accounts = [⟨"a", 0, 7, "USD"⟩, ⟨"a", 0, 0, "USD"⟩] ∧
      pointless.SettlesTo [⟨"a", 7, "USD"⟩, ⟨"a", 0, "usd"⟩] ⟨2026, 1, 1, by decide⟩ (.ok t) := by
  have hsettle : settle pointless [⟨"a", 7, "USD"⟩, ⟨"a", 0, "usd"⟩] ⟨2026, 1, 1, by decide⟩ =
      .ok ⟨"DEBIT", -3, "USD", "a", "a", none, .successful, "AP00",
        [⟨"a", 0, 7, "USD"⟩, ⟨"a", 0, 0, "USD"⟩]⟩ := by decide +kernel
  exact ⟨_, hsettle, rfl, ((settle_eq_iff _ _ _).1 _).mp hsettle⟩

/-- A negative amount of one digit more than are written. -/
def immense : Order :=
  ⟨.debit, -(10 ^ Numeral.digitLimit : Nat), "USD", "a", "b", none⟩

/-- The accounts of the order are there, it is covered and it does not wait, but there is no
report. -/
theorem settle_immense :
    immense.CoveredBy [⟨"a", 0, "USD"⟩, ⟨"b", 0, "USD"⟩] ∧
      ¬ immense.Waits ⟨2026, 1, 1, by decide⟩ ∧
      settle immense [⟨"a", 0, "USD"⟩, ⟨"b", 0, "USD"⟩] ⟨2026, 1, 1, by decide⟩ =
        .error (.fault .tooManyDigits) := by
  have hneg : immense.amount ≤ 0 := Int.neg_nonpos_of_nonneg (Int.natCast_nonneg _)
  have hcovered : immense.CoveredBy [⟨"a", 0, "USD"⟩, ⟨"b", 0, "USD"⟩] :=
    ⟨rfl, ⟨⟨"a", 0, "USD"⟩, rfl, ⟨[], [⟨"b", 0, "USD"⟩], rfl, by simp⟩, hneg⟩,
      ⟨"b", 0, "USD"⟩, by simp, rfl⟩
  have hdigits : 10 ^ Numeral.digitLimit ≤ immense.amount.natAbs := by
    refine Nat.le_of_eq ?_
    rw [immense, Int.natAbs_neg, Int.natAbs_natCast]
  refine ⟨hcovered, fun ⟨_, hday, _⟩ => (nomatch hday), ?_⟩
  exact hcovered.settle_of_le hdigits

end Remittance
