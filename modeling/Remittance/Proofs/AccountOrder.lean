import Mathlib.Data.List.Nodup
import Remittance.Proofs.Comparison
import Remittance.Proofs.Conservation
import Remittance.Proofs.FailureReport

/-!
# The order of the accounts

The accounts of a request may come in any order.  The settlement looks at the first of them for the
currency, the screening reports the first that is at fault, and the balances are put together one
after the other; where no two accounts have one id, none of this shows.  Two orders of the same
accounts come to the same transaction or are turned down for the same reason, and the entries follow
the order of the list (`clear_reordered`).  Only the currency that a message under `CU02` names may
depend on the order.
-/

namespace Remittance

open Requirement

/-! ## What two orders have in common -/

/-- The second transaction is the first with its entries in another order. -/
structure Transaction.IsReorderedAs (t u : Transaction) : Prop where
  rest : u = { t with accounts := u.accounts }
  entries : t.accounts.Perm u.accounts

/-- The entries of the transaction are in the order in which its accounts stand in the list. -/
def Transaction.FollowsOrderOf (t : Transaction) (accounts : List Account) : Prop :=
  t.accounts.map (·.id) = (Account.withEither t.debit t.credit accounts).map (·.id)

/-- The second failure is the first with its entries in another order.  An unsupported currency may
be reported of another account. -/
structure Failure.IsReorderedAs (f g : Failure) : Prop where
  code : g.code = f.code
  message : f.code ≠ .unsupportedCurrency →
    g.message = f.message ∧ g.context.reason = f.context.reason
  rest : g.context =
    { f.context with reason := g.context.reason, accounts := g.context.accounts }
  entries : f.context.accounts.Perm g.context.accounts

/-- What two orders of the same accounts come to: the same transaction or the same failure, but for
the order of the entries. -/
inductive SameButOrder (xs ys : List Account) :
    Except Refusal Transaction → Except Refusal Transaction → Prop
  | settled {t u : Transaction} (h : t.IsReorderedAs u) (hxs : t.FollowsOrderOf xs)
    (hys : u.FollowsOrderOf ys) : SameButOrder xs ys (.ok t) (.ok u)
  | refused {f g : Failure} (h : f.IsReorderedAs g) :
    SameButOrder xs ys (.error (.failure f)) (.error (.failure g))

/-- The rejections have one code, and one message if it is not about an unsupported currency. -/
structure Rejection.ResemblesInOrder (r s : Rejection) : Prop where
  code : r.code = s.code
  message : r.code ≠ .unsupportedCurrency → r.message = s.message

lemma Rejection.ResemblesInOrder.refl (r : Rejection) : r.ResemblesInOrder r :=
  ⟨rfl, fun _ => rfl⟩

/-! ## Accounts and their balances -/

section Balances

variable {xs ys : List Account}

lemma exists_id_iff_of_perm (h : xs.Perm ys) (id : String) :
    (∃ a ∈ xs, a.id = id) ↔ ∃ a ∈ ys, a.id = id :=
  exists_congr fun _ => and_congr_left fun _ => h.mem_iff

/-- The only account with an id is the last with it. -/
lemma Account.lastWith?_of_mem (hids : (xs.map (·.id)).Nodup) {a : Account} (ha : a ∈ xs) :
    lastWith? a.id xs = some a := by
  obtain ⟨b, hb⟩ := exists_lastWith? ⟨a, ha, rfl⟩
  obtain ⟨hid, hlast⟩ := lastWith?_eq_some_iff.mp hb
  rw [hb, List.inj_on_of_nodup_map hids hlast.mem ha hid]

/-- Every account is found with its own balance. -/
lemma Balances.get_ofAccounts_of_mem (hids : (xs.map (·.id)).Nodup) {a : Account} (ha : a ∈ xs) :
    (ofAccounts xs).get a.id = a.balance :=
  get_ofAccounts (Account.lastWith?_of_mem hids ha)

lemma Balances.get_ofAccounts_perm (h : xs.Perm ys) (hids : (xs.map (·.id)).Nodup) {id : String}
    (hid : ∃ a ∈ xs, a.id = id) : (ofAccounts xs).get id = (ofAccounts ys).get id := by
  obtain ⟨a, ha, rfl⟩ := hid
  have hids' : (ys.map (·.id)).Nodup := (h.map _).nodup_iff.mp hids
  rw [get_ofAccounts_of_mem hids ha, get_ofAccounts_of_mem hids' (h.mem_iff.mp ha)]

lemma withEither_perm (h : xs.Perm ys) (debit credit : String) :
    (Account.withEither debit credit xs).Perm (Account.withEither debit credit ys) :=
  h.filter _

lemma nodup_withEither (hids : (xs.map (·.id)).Nodup) (debit credit : String) :
    ((Account.withEither debit credit xs).map (·.id)).Nodup :=
  hids.sublist (List.filter_sublist.map _)

end Balances

/-! ## The stages -/

section Stages

variable {xs ys : List Account}

lemma involvedRequirements_perm (h : xs.Perm ys) :
    involvedRequirements xs = involvedRequirements ys := by
  simp only [involvedRequirements, h.mem_iff]

/-- The screening of accounts turns down an id, a currency, or a mixture of currencies. -/
lemma screenAccounts_eq_error {involved : List Account} {r : Rejection}
    (h : screenAccounts involved = .error r) :
    r.code = .invalidAccountId ∨ r.code = .unsupportedCurrency ∨
      r = .mixedCurrencies (distinct (involved.map (·.currency))) := by
  rcases bind_eq_error_iff.mp h with hids | ⟨_, _, h⟩
  · have hunmet := (decides_mapM (fun a : Account => IsAccountId a.id) .invalidAccountId
      (fun a => decides_screenId a.id) involved).firstUnmet hids
    exact .inl (firstUnmet_singleton.mp hunmet).2.symm
  rcases bind_eq_error_iff.mp h with hcurrencies | ⟨_, _, h⟩
  · have hunmet := (decides_mapM (fun a : Account => Text.upper a.currency ∈ supportedCurrencies)
      .unsupportedCurrency (fun a => decides_screenCurrency a.currency) involved).firstUnmet
        hcurrencies
    exact .inr (.inl (firstUnmet_singleton.mp hunmet).2.symm)
  · dsimp only at h
    split at h
    · exact .inr (.inr (Except.error.inj h).symm)
    · cases h

/-- Accounts whose ids pass are turned down in either order or in none.  Which of several
unsupported currencies comes first is left open. -/
lemma screenAccounts_alike (h : xs.Perm ys) (hids : ∀ a ∈ xs, IsAccountId a.id) :
    Alike Rejection.ResemblesInOrder (fun _ _ => True) (screenAccounts xs) (screenAccounts ys) := by
  have hxs := decides_screenAccounts xs
  have hys := decides_screenAccounts ys
  rw [← involvedRequirements_perm h] at hys
  cases hx : screenAccounts xs with
  | ok as =>
    cases hy : screenAccounts ys with
    | ok bs => trivial
    | error s => exact absurd (hxs.allMet hx) (hys.firstUnmet hy).not_allMet
  | error r =>
    cases hy : screenAccounts ys with
    | ok bs => exact absurd (hys.allMet hy) (hxs.firstUnmet hx).not_allMet
    | error s =>
      have hcode : r.code = s.code := (hxs.firstUnmet hx).unique (hys.firstUnmet hy)
      have hid : r.code ≠ .invalidAccountId := by
        have hmem := ((hxs.of_cons hids).firstUnmet hx).code_mem
        intro heq
        rw [heq] at hmem
        simp at hmem
      refine ⟨hcode, fun hcurrency => ?_⟩
      obtain rfl := ((screenAccounts_eq_error hx).resolve_left hid).resolve_left hcurrency
      obtain rfl := ((screenAccounts_eq_error hy).resolve_left (hcode ▸ hid)).resolve_left
        (hcode ▸ hcurrency)
      rfl

/-- Of accounts that share a currency, every one may stand for all. -/
lemma find?_currency_perm (h : xs.Perm ys)
    (hsame : ∀ a ∈ xs, ∀ b ∈ xs, a.currency = b.currency) (currency : String) :
    (xs.find? fun a => decide (a.currency ≠ currency)).map (·.currency) =
      (ys.find? fun a => decide (a.currency ≠ currency)).map (·.currency) := by
  cases hx : xs.find? fun a => decide (a.currency ≠ currency) with
  | none =>
    have hnone : ys.find? (fun a => decide (a.currency ≠ currency)) = none := by
      rw [List.find?_eq_none] at hx ⊢
      exact fun a ha => hx a (h.mem_iff.mpr ha)
    rw [hnone]
  | some a =>
    have ha := List.mem_of_find?_eq_some hx
    have hsome : (ys.find? fun a => decide (a.currency ≠ currency)).isSome :=
      List.find?_isSome.mpr ⟨a, h.mem_iff.mp ha, by simpa using List.find?_some hx⟩
    obtain ⟨b, hb⟩ := Option.isSome_iff_exists.mp hsome
    have hcurrency := hsame a ha b (h.mem_iff.mpr (List.mem_of_find?_eq_some hb))
    rw [hb, Option.map_some, Option.map_some, hcurrency]

/-- The settlement turns down the same whatever account comes first. -/
lemma cover_perm (h : xs.Perm ys) (hids : (xs.map (·.id)).Nodup)
    (hsame : ∀ a ∈ xs, ∀ b ∈ xs, a.currency = b.currency) {order : Order}
    (hdebit : ∃ a ∈ xs, a.id = order.debit) : order.cover xs = order.cover ys := by
  have hfind := find?_currency_perm h hsame order.currency
  have hfunds := Balances.get_ofAccounts_perm h hids hdebit
  rw [Instruction.cover, Instruction.cover, hfunds]
  cases hx : xs.find? fun a => decide (a.currency ≠ order.currency) with
  | none =>
    rw [hx, Option.map_none, eq_comm, Option.map_eq_none_iff] at hfind
    rw [hfind]
  | some a =>
    rw [hx, Option.map_some, eq_comm, Option.map_eq_some_iff] at hfind
    obtain ⟨b, hb, hcurrency⟩ := hfind
    rw [hb]
    dsimp only
    rw [hcurrency]

end Stages

/-! ## The judgement and the reports -/

section Reports

variable {text : String} {xs ys : List Account}

lemma involved_perm (h : xs.Perm ys) (text : String) :
    (Request.involved ⟨xs, text⟩).Perm (Request.involved ⟨ys, text⟩) :=
  withEither_perm h _ _

lemma judge_reordered (h : xs.Perm ys) (hids : (xs.map (·.id)).Nodup) :
    Alike Rejection.ResemblesInOrder Eq (Request.judge ⟨xs, text⟩) (Request.judge ⟨ys, text⟩) := by
  have hperm := involved_perm h text
  have hinvolved : ((Request.involved ⟨xs, text⟩).map (·.id)).Nodup := nodup_withEither hids _ _
  have hrefl := fun r => Rejection.ResemblesInOrder.refl r
  have hmissing : ∀ id, (Rejection.accountNotFound id xs.length).ResemblesInOrder
      (.accountNotFound id ys.length) := fun _ => ⟨rfl, fun _ => rfl⟩
  unfold Request.judge
  refine (Alike.refl hrefl _).bind fun _ _ _ _ _ => ?_
  refine (resolve_alike (fun id _ => exists_id_iff_of_perm h id) hmissing
    (withEither_perm h _ _)).bind fun _ _ hresolve _ _ => ?_
  refine (Alike.refl hrefl _).bind fun order _ hjudge _ hsame => ?_
  obtain rfl := hsame
  have hpasses := Instruction.passesAs_of_judge hjudge
  -- The ids of the accounts are those of the instruction, which passed.
  have hpass : ∀ a ∈ Request.involved ⟨xs, text⟩, IsAccountId a.id := fun _ ha =>
    isAccountId_of_mem_withEither hpasses.isAccountId_debit hpasses.isAccountId_credit ha
  refine (screenAccounts_alike hperm hpass).bind fun _ _ hscreened _ _ => ?_
  have hcurrency : ∀ a ∈ Request.involved ⟨xs, text⟩, ∀ b ∈ Request.involved ⟨xs, text⟩,
      a.currency = b.currency :=
    (decides_screenAccounts _).allMet hscreened ⟨_, .currencyMismatch⟩
      (by simp [involvedRequirements])
  have hdebit : ∃ a ∈ Request.involved ⟨xs, text⟩, a.id = order.debit := by
    rw [hpasses.debit]
    exact (Account.exists_mem_withEither (.inl rfl)).mpr ((resolve_eq_ok_iff _ _).mp hresolve).1
  rw [cover_perm hperm hinvolved hcurrency hdebit]
  exact Alike.refl hrefl _

/-- The entries of an order show the same balances in any order of the accounts. -/
lemma isReorderedAs_ofOrder (h : xs.Perm ys) (hids : (xs.map (·.id)).Nodup) (order : Order)
    (today : Day) :
    (Transaction.ofOrder order xs today).IsReorderedAs (.ofOrder order ys today) := by
  refine ⟨rfl, ?_⟩
  have hbalance : ∀ a ∈ xs, (Balances.ofAccounts xs).get a.id = (Balances.ofAccounts ys).get a.id :=
    fun a ha => Balances.get_ofAccounts_perm h hids ⟨a, ha, rfl⟩
  have hentries : (Transaction.ofOrder order xs today).accounts =
      xs.map fun a => ⟨a.id, (if order.isDue today then
        (Balances.ofAccounts ys).transfer order.debit order.credit order.amount
        else Balances.ofAccounts ys).get a.id, a.balance, Text.upper a.currency⟩ := by
    refine List.map_congr_left fun a ha => ?_
    cases order.isDue today with
    | true => simp only [if_true, Balances.get_transfer, hbalance a ha]
    | false => simp only [Bool.false_eq_true, if_false, hbalance a ha]
  rw [hentries]
  exact h.map _

lemma followsOrderOf_ofOrder {request : Request} {order : Order} (h : request.judge = .ok order)
    (today : Day) :
    (Transaction.ofOrder order request.involved today).FollowsOrderOf request.accounts := by
  have hinvolved := (Request.comesTo_of_judge h).involved_eq
  have hids : (Transaction.ofOrder order request.involved today).accounts.map (·.id) =
      request.involved.map (·.id) := List.map_map
  rw [Transaction.FollowsOrderOf, hids, hinvolved]
  rfl

/-- Rejections that resemble each other are failures that do. -/
lemma isReorderedAs_failure {r s : Rejection} (hrs : r.ResemblesInOrder s) {first second : Request}
    (hinstruction : first.instruction = second.instruction)
    (h : first.involved.Perm second.involved) :
    (first.failure r).IsReorderedAs (second.failure s) := by
  by_cases hsyntactic : r.code.isSyntactic = true
  · have hfirst : (first.failure r).context = .bare r.code r.message :=
      context_of_syntactic hsyntactic
    have hsecond : (second.failure s).context = .bare s.code s.message :=
      context_of_syntactic (hrs.code ▸ hsyntactic)
    refine ⟨hrs.code.symm, fun hcode => ?_, ?_, ?_⟩
    · rw [hfirst, hsecond]
      exact ⟨(hrs.message hcode).symm, (hrs.message hcode).symm⟩
    · rw [hfirst, hsecond, hrs.code]
      rfl
    · rw [hfirst, hsecond]
      exact .refl _
  · have hfirst : (first.failure r).context = .ofInstruction r.code r.message first.instruction
        (if r.code = .accountNotFound then [] else first.involved) :=
      context_of_not_syntactic hsyntactic
    have hsecond : (second.failure s).context = .ofInstruction s.code s.message second.instruction
        (if s.code = .accountNotFound then [] else second.involved) :=
      context_of_not_syntactic (hrs.code ▸ hsyntactic)
    refine ⟨hrs.code.symm, fun hcode => ?_, ?_, ?_⟩
    · rw [hfirst, hsecond]
      exact ⟨(hrs.message hcode).symm, (hrs.message hcode).symm⟩
    · rw [hfirst, hsecond, hinstruction, hrs.code]
      rfl
    · rw [hfirst, hsecond, hrs.code]
      refine List.Perm.map _ ?_
      split
      · exact .refl _
      · exact h

end Reports

/-- Two orders of accounts with different ids come to the same: a transaction with its entries in
the order of the list, or a failure with one code and, unless a currency is not supported, one
message. -/
theorem clear_reordered (text : String) {xs ys : List Account} (h : xs.Perm ys)
    (hids : (xs.map (·.id)).Nodup) (today : Day) :
    SameButOrder xs ys (clear ⟨xs, text⟩ today).outcome (clear ⟨ys, text⟩ today).outcome := by
  have hperm := involved_perm h text
  have hinvolved : ((Request.involved ⟨xs, text⟩).map (·.id)).Nodup := nodup_withEither hids _ _
  rcases (judge_reordered h hids).cases with ⟨order, _, hxs, hys, rfl⟩ | ⟨r, s, hxs, hys, hrs⟩
  · rw [outcome_eq_ok_iff.mpr ⟨order, hxs, rfl⟩, outcome_eq_ok_iff.mpr ⟨order, hys, rfl⟩]
    exact .settled (isReorderedAs_ofOrder hperm hinvolved order today)
      (followsOrderOf_ofOrder hxs today) (followsOrderOf_ofOrder hys today)
  · rw [outcome_eq_error_iff.mpr ⟨r, hxs, rfl⟩, outcome_eq_error_iff.mpr ⟨s, hys, rfl⟩]
    exact .refused (isReorderedAs_failure hrs rfl hperm)

/-- A transfer, written from the side of the account that receives it. -/
def fiveReceived : String :=
  "CREDIT 5 USD TO ACCOUNT b FOR DEBIT FROM ACCOUNT a"

/-- Three accounts in the given currencies. -/
def payerFirst (payer payee : String) : List Account :=
  [⟨"a", 9, payer⟩, ⟨"c", 1, "USD"⟩, ⟨"b", 0, payee⟩]

/-- The same accounts in another order. -/
def payeeFirst (payer payee : String) : List Account :=
  [⟨"b", 0, payee⟩, ⟨"a", 9, payer⟩, ⟨"c", 1, "USD"⟩]

/-- A transfer that is carried out has its entries in either order.  With two currencies that are
not supported, each order reports the first of them, under one code. -/
theorem clear_reordered_three :
    (payerFirst "USD" "USD").Perm (payeeFirst "USD" "USD") ∧
      ((payerFirst "USD" "USD").map (·.id)).Nodup ∧
      SameButOrder (payerFirst "USD" "USD") (payeeFirst "USD" "USD")
        (clear ⟨payerFirst "USD" "USD", fiveReceived⟩ ⟨2026, 1, 1, by decide⟩).outcome
        (clear ⟨payeeFirst "USD" "USD", fiveReceived⟩ ⟨2026, 1, 1, by decide⟩).outcome ∧
      (clear ⟨payerFirst "USD" "USD", fiveReceived⟩ ⟨2026, 1, 1, by decide⟩).outcome =
        .ok ⟨"CREDIT", 5, "USD", "a", "b", none, .successful, "AP00",
          [⟨"a", 4, 9, "USD"⟩, ⟨"b", 5, 0, "USD"⟩]⟩ ∧
      (clear ⟨payeeFirst "USD" "USD", fiveReceived⟩ ⟨2026, 1, 1, by decide⟩).outcome =
        .ok ⟨"CREDIT", 5, "USD", "a", "b", none, .successful, "AP00",
          [⟨"b", 5, 0, "USD"⟩, ⟨"a", 4, 9, "USD"⟩]⟩ ∧
      (payerFirst "EUR" "JPY").Perm (payeeFirst "EUR" "JPY") ∧
      ((payerFirst "EUR" "JPY").map (·.id)).Nodup ∧
      SameButOrder (payerFirst "EUR" "JPY") (payeeFirst "EUR" "JPY")
        (clear ⟨payerFirst "EUR" "JPY", fiveReceived⟩ ⟨2026, 1, 1, by decide⟩).outcome
        (clear ⟨payeeFirst "EUR" "JPY", fiveReceived⟩ ⟨2026, 1, 1, by decide⟩).outcome ∧
      Request.judge ⟨payerFirst "EUR" "JPY", fiveReceived⟩ = .error (.unsupportedCurrency "EUR") ∧
      Request.judge ⟨payeeFirst "EUR" "JPY", fiveReceived⟩ = .error (.unsupportedCurrency "JPY") := by
  have hfunded : (payerFirst "USD" "USD").Perm (payeeFirst "USD" "USD") := by decide
  have hfundedIds : ((payerFirst "USD" "USD").map (·.id)).Nodup := by decide
  have hrefused : (payerFirst "EUR" "JPY").Perm (payeeFirst "EUR" "JPY") := by decide
  have hrefusedIds : ((payerFirst "EUR" "JPY").map (·.id)).Nodup := by decide
  exact ⟨hfunded, hfundedIds, clear_reordered _ hfunded hfundedIds _, by decide +kernel,
    by decide +kernel, hrefused, hrefusedIds, clear_reordered _ hrefused hrefusedIds _,
    by decide +kernel, by decide +kernel⟩

end Remittance
