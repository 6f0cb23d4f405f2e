import Remittance.Proofs.Screening
import Remittance.Settlement

/-!
# Balances and the settlement

What `Balances` hold after each of their operations, and which requirements the settlement adds.

Of several accounts with one id the last counts.  `Account.IsLast` says so by the place in the list,
and `get_ofAccounts` ties it to the balances by id.  `Instruction.cover` is the part of the
settlement that does not look at the day; `settle_eq` puts the settlement together from it.
-/

namespace Remittance

open Requirement

/-! ## The last account with an id -/

namespace Account

/-- No later account of the list has the id of this one. -/
def IsLast (a : Account) (accounts : List Account) : Prop :=
  ∃ before after, accounts = before ++ a :: after ∧ ∀ b ∈ after, b.id ≠ a.id

lemma IsLast.mem {a : Account} {accounts : List Account} (h : a.IsLast accounts) :
    a ∈ accounts := by
  obtain ⟨before, after, rfl, _⟩ := h
  exact List.mem_append_right before List.mem_cons_self

lemma lastWith?_eq_some_iff {id : String} {accounts : List Account} {a : Account} :
    lastWith? id accounts = some a ↔ a.id = id ∧ a.IsLast accounts := by
  rw [lastWith?, List.find?_eq_some_iff_append, beq_iff_eq]
  refine and_congr_right fun hid => ?_
  subst hid
  constructor
  · rintro ⟨later, earlier, hreverse, hlater⟩
    refine ⟨earlier.reverse, later.reverse, ?_, fun b hb => ?_⟩
    · rw [← List.reverse_reverse accounts, hreverse, List.reverse_append, List.reverse_cons,
        List.append_assoc, List.singleton_append]
    · simpa using hlater b (List.mem_reverse.mp hb)
  · rintro ⟨before, after, rfl, hafter⟩
    refine ⟨after.reverse, before.reverse, ?_, fun b hb => ?_⟩
    · rw [List.reverse_append, List.reverse_cons, List.append_assoc, List.singleton_append]
    · simpa using hafter b (List.mem_reverse.mp hb)

lemma lastWith?_eq_none_iff {id : String} {accounts : List Account} :
    lastWith? id accounts = none ↔ ∀ a ∈ accounts, a.id ≠ id := by
  simp [lastWith?]

/-- There is one last account with an id. -/
lemma IsLast.eq_of_id {a b : Account} {accounts : List Account} (ha : a.IsLast accounts)
    (hb : b.IsLast accounts) (hid : a.id = b.id) : a = b := by
  have hlast := lastWith?_eq_some_iff.mpr ⟨hid, ha⟩
  rw [lastWith?_eq_some_iff.mpr ⟨rfl, hb⟩] at hlast
  exact (Option.some.inj hlast).symm

lemma exists_lastWith? {id : String} {accounts : List Account}
    (h : ∃ a ∈ accounts, a.id = id) : ∃ a, lastWith? id accounts = some a := by
  obtain ⟨a, ha, hid⟩ := h
  refine Option.isSome_iff_exists.mp (List.find?_isSome.mpr ⟨a, ?_, ?_⟩)
  · exact List.mem_reverse.mpr ha
  · exact beq_iff_eq.mpr hid

lemma lastWith?_cons (id : String) (a : Account) (later : List Account) :
    lastWith? id (a :: later) =
      (lastWith? id later).or (if a.id = id then some a else none) := by
  rw [lastWith?, List.reverse_cons, List.find?_append, List.find?_singleton, lastWith?]
  simp only [beq_iff_eq]

/-- To pick the accounts with two ids keeps the last account with either of them. -/
lemma lastWith?_withEither {debit credit id : String} (hid : id = debit ∨ id = credit)
    (accounts : List Account) :
    lastWith? id (withEither debit credit accounts) = lastWith? id accounts := by
  rw [lastWith?, lastWith?, withEither, ← List.filter_reverse, List.find?_filter]
  congr 1
  funext a
  by_cases h : a.id = id
  · rcases hid with rfl | rfl <;> simp [h]
  · simp [h]

end Account

/-! ## Balances -/

namespace Balances

lemma find?_item (item : String × Int) (later : List (String × Int)) (other : String) :
    (item :: later).find? (·.1 == other) =
      if item.1 = other then some item else later.find? (·.1 == other) := by
  rw [List.find?_cons]
  by_cases h : item.1 = other
  · rw [if_pos h, beq_iff_eq.mpr h]
  · rw [if_neg h, beq_eq_false_iff_ne.mpr h]

lemma find?_putItem (id other : String) (balance : Int) (items : List (String × Int)) :
    (putItem id balance items).find? (·.1 == other) =
      if id = other then some (id, balance) else items.find? (·.1 == other) := by
  induction items with
  | nil => rw [putItem, find?_item]
  | cons item later ih =>
    rw [putItem, find?_item]
    by_cases hitem : item.1 = id
    · rw [if_pos hitem, find?_item, hitem]
      by_cases h : id = other
      · rw [if_pos h, if_pos h]
      · rw [if_neg h, if_neg h, if_neg h]
    · rw [if_neg hitem, find?_item, ih]
      by_cases h : item.1 = other
      · rw [if_pos h, if_pos h, if_neg (fun hid => hitem (h.trans hid.symm))]
      · rw [if_neg h, if_neg h]

lemma get_put (b : Balances) (id other : String) (balance : Int) :
    (b.put id balance).get other = if other = id then balance else b.get other := by
  rw [get, put, find?_putItem]
  by_cases h : other = id
  · rw [if_pos h, if_pos h.symm]
    rfl
  · rw [if_neg h, if_neg (Ne.symm h)]
    rfl

lemma get_add (b : Balances) (id other : String) (amount : Int) :
    (b.add id amount).get other = b.get other + if other = id then amount else 0 := by
  rw [add, get_put]
  by_cases h : other = id
  · rw [if_pos h, if_pos h, h]
  · rw [if_neg h, if_neg h, Int.add_zero]

/-- Both sides of a transfer apply to an id that is on both. -/
lemma get_transfer (b : Balances) (debit credit other : String) (amount : Int) :
    (b.transfer debit credit amount).get other =
      b.get other - (if other = debit then amount else 0)
        + (if other = credit then amount else 0) := by
  rw [transfer, get_add, get_add]
  by_cases h : other = debit
  · rw [if_pos h, if_pos h, Int.sub_eq_add_neg]
  · rw [if_neg h, if_neg h, Int.sub_zero, Int.add_zero]

/-- The balance of an id is that of the last account with it. -/
lemma get_ofAccounts {id : String} {accounts : List Account} {a : Account}
    (h : Account.lastWith? id accounts = some a) : (ofAccounts accounts).get id = a.balance := by
  have hfold : ∀ (b : Balances) (accounts : List Account),
      (accounts.foldl (fun b a => b.put a.id a.balance) b).get id =
        ((Account.lastWith? id accounts).map (·.balance)).getD (b.get id) := by
    intro b accounts
    induction accounts generalizing b with
    | nil => rfl
    | cons first later ih =>
      rw [List.foldl_cons, ih, Account.lastWith?_cons, get_put]
      cases Account.lastWith? id later with
      | some a => rfl
      | none =>
        by_cases hfirst : first.id = id
        · rw [if_pos hfirst, if_pos hfirst.symm]
          rfl
        · rw [if_neg hfirst, if_neg (Ne.symm hfirst)]
          rfl
  rw [ofAccounts, hfold, h]
  rfl

end Balances

/-! ## The settlement without its day -/

/-- The part of the settlement that may turn an order down, which is the same on every day. -/
def Instruction.cover (order : Order) (accounts : List Account) : Except Rejection Order :=
  match accounts.find? fun a => decide (a.currency ≠ order.currency) with
  | some a => .error (.currencyMismatch a.currency order.currency)
  | none =>
    if (Balances.ofAccounts accounts).get order.debit < order.amount then
      .error (.insufficientFunds order.debit)
    else .ok order

/-- What is required of the accounts of an order. -/
def coverRequirements (order : Order) (accounts : List Account) : List Requirement :=
  [⟨∀ a ∈ accounts, a.currency = order.currency, .currencyMismatch⟩,
    ⟨order.amount ≤ (Balances.ofAccounts accounts).get order.debit, .insufficientFunds⟩]

theorem decides_cover (order : Order) (accounts : List Account) :
    Decides (coverRequirements order accounts) (order.cover accounts) := by
  unfold coverRequirements Instruction.cover
  cases hfind : accounts.find? fun a => decide (a.currency ≠ order.currency) with
  | some a =>
    have hne : a.currency ≠ order.currency := by simpa using List.find?_some hfind
    have ha := List.mem_of_find?_eq_some hfind
    exact firstUnmet_cons.mpr (.inl ⟨fun hall => hne (hall a ha), rfl⟩)
  | none =>
    have hall : ∀ a ∈ accounts, a.currency = order.currency := by
      intro a ha
      simpa using List.find?_eq_none.mp hfind a ha
    dsimp only
    by_cases hfunds : (Balances.ofAccounts accounts).get order.debit < order.amount
    · rw [if_pos hfunds]
      exact firstUnmet_cons.mpr (.inr ⟨hall, firstUnmet_singleton.mpr
        ⟨Int.not_le.mpr hfunds, rfl⟩⟩)
    · rw [if_neg hfunds]
      exact allMet_cons.mpr ⟨hall, allMet_singleton.mpr (Int.not_lt.mp hfunds)⟩

lemma Instruction.cover_eq_ok {order order' : Order} {accounts : List Account}
    (h : order.cover accounts = .ok order') : order' = order := by
  unfold cover at h
  split at h
  · cases h
  · split at h
    · cases h
    · exact (Except.ok.inj h).symm

/-- The cover of an order looks at its currency, its debit account and its amount only. -/
lemma Instruction.cover_map {f : Order → Order} {order : Order}
    (hcurrency : (f order).currency = order.currency) (hdebit : (f order).debit = order.debit)
    (hamount : (f order).amount = order.amount) (accounts : List Account) :
    (f order).cover accounts = f <$> order.cover accounts := by
  rw [cover, cover, hcurrency, hdebit, hamount]
  cases accounts.find? fun a => decide (a.currency ≠ order.currency) with
  | some a => rfl
  | none =>
    by_cases hfunds : (Balances.ofAccounts accounts).get order.debit < order.amount
    · simp only [if_pos hfunds]
      rfl
    · simp only [if_neg hfunds]
      rfl

/-- Where accounts with both ids are there and all are in one currency, the settlement turns down
what is not covered and reports everything else, if the amount can be shown. -/
theorem settle_eq {order : Order} {accounts : List Account} (today : Day)
    (hamount : Numeral.isWritable order.amount = true)
    (hdebit : ∃ a ∈ accounts, a.id = order.debit) (hcredit : ∃ a ∈ accounts, a.id = order.credit)
    (hsame : ∀ a ∈ accounts, ∀ b ∈ accounts, a.currency = b.currency) :
    settle order accounts today =
      match order.cover accounts with
      | .error r => .error (.rejected r)
      | .ok _ => .ok (.ofOrder order accounts today) := by
  obtain ⟨debit, hdebit⟩ := Account.exists_lastWith? hdebit
  obtain ⟨credit, hcredit⟩ := Account.exists_lastWith? hcredit
  have hbalance := Balances.get_ofAccounts hdebit
  obtain _ | ⟨first, later⟩ := accounts
  · cases hdebit
  have hfirst : first ∈ first :: later := List.mem_cons_self
  rw [settle, Instruction.parties, Instruction.cover]
  by_cases hcurrency : order.currency = first.currency
  · have hfind : (first :: later).find? (fun a => decide (a.currency ≠ order.currency)) = none := by
      rw [List.find?_eq_none]
      intro a ha
      simpa using (hsame a ha first hfirst).trans hcurrency.symm
    rw [if_neg (not_not.mpr hcurrency), hdebit, hcredit, hfind]
    dsimp only
    rw [hbalance]
    by_cases hfunds : debit.balance < order.amount
    · rw [if_pos hfunds, if_pos hfunds]
    · rw [if_neg hfunds, if_neg hfunds, if_pos hamount]
  · have hfind : (first :: later).find? (fun a => decide (a.currency ≠ order.currency))
        = some first := by
      rw [List.find?_cons_of_pos]
      exact decide_eq_true (Ne.symm hcurrency)
    rw [if_pos hcurrency, hfind]

end Remittance
