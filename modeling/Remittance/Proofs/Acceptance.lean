import Mathlib.Data.List.Forall2
import Remittance.Proofs.Requirement
import Remittance.Proofs.UpperCase
import Remittance.Schema.Request

/-!
# Accepted requests

A request is `Accepted` if the check of some payload gives it.  The settlement relies on two things
that hold of every account of such a request: its balance is not negative, and its currency is in
upper case, so that `Text.upper` leaves it alone.
-/

namespace Remittance

/-- The counterpart of `List.forall₂_and_left` for the second list. -/
lemma forall₂_and_right {α β : Type} {R : α → β → Prop} {p : β → Prop} {as : List α}
    {bs : List β} :
    List.Forall₂ (fun a b => R a b ∧ p b) as bs ↔ List.Forall₂ R as bs ∧ ∀ b ∈ bs, p b := by
  constructor
  · intro h
    have hflip : List.Forall₂ (fun b a => p b ∧ R a b) bs as := (h.imp fun _ _ => And.symm).flip
    obtain ⟨hp, hR⟩ := (List.forall₂_and_left _ _).mp hflip
    exact ⟨hR.flip, hp⟩
  · rintro ⟨hR, hp⟩
    have hflip : List.Forall₂ (fun b a => p b ∧ R a b) bs as :=
      (List.forall₂_and_left _ _).mpr ⟨hp, hR.flip⟩
    exact hflip.flip.imp fun _ _ => And.symm

lemma forall_mem_of_forall₂ {α β : Type} {R : α → β → Prop} {p : β → Prop}
    (hp : ∀ a b, R a b → p b) {as : List α} {bs : List β} (h : List.Forall₂ R as bs) :
    ∀ b ∈ bs, p b :=
  (forall₂_and_right.mp (h.imp fun a b hab => ⟨hab, hp a b hab⟩)).2

/-! ## Values of checks -/

namespace Checked

lemma under_eq_ok_iff {α : Type} {step : Step} {c : Checked α} {a : α} :
    under step c = .ok a ↔ c = .ok a := by
  cases c with
  | error e => exact ⟨fun h => (nomatch h), fun h => (nomatch h)⟩
  | ok b => exact Iff.rfl

lemma both_eq_ok_iff {α β : Type} {a : Checked α} {b : Checked β} {x : α} {y : β} :
    both a b = .ok (x, y) ↔ a = .ok x ∧ b = .ok y := by
  cases a with
  | error e =>
    refine ⟨fun h => ?_, fun h => (nomatch h.1)⟩
    cases b <;> cases h
  | ok x =>
    cases b with
    | error e => exact ⟨fun h => (nomatch h), fun h => (nomatch h.2)⟩
    | ok y =>
      constructor
      · intro h
        cases h
        exact ⟨rfl, rfl⟩
      · rintro ⟨hx, hy⟩
        cases hx
        cases hy
        rfl

/-- The items of a list pass together if each of them passes. -/
lemma items_eq_ok_iff {α : Type} {check : Json → Checked α} {payloads : List Json} :
    ∀ {first : Nat} {as : List α}, items check first payloads = .ok as ↔
      List.Forall₂ (fun payload a => check payload = .ok a) payloads as := by
  induction payloads with
  | nil =>
    intro first as
    rw [List.forall₂_nil_left_iff, items, Except.ok.injEq]
    exact eq_comm
  | cons payload later ih =>
    intro first as
    rw [List.forall₂_cons_left_iff, items]
    cases hboth : both (under (.index first) (check payload)) (items check (first + 1) later) with
    | error e =>
      refine ⟨fun h => (nomatch h), fun ⟨a, rest, ha, hrest, _⟩ => ?_⟩
      have hitem : under (.index first) (check payload) = .ok a := under_eq_ok_iff.mpr ha
      have hlater : items check (first + 1) later = .ok rest := ih.mpr hrest
      rw [both_eq_ok_iff.mpr ⟨hitem, hlater⟩] at hboth
      cases hboth
    | ok pair =>
      obtain ⟨ha, hrest⟩ := both_eq_ok_iff.mp hboth
      have ha := under_eq_ok_iff.mp ha
      constructor
      · intro h
        cases h
        exact ⟨pair.1, pair.2, ha, ih.mp hrest, rfl⟩
      · rintro ⟨b, rest, hb, hlater, rfl⟩
        rw [ha] at hb
        have hlater : items check (first + 1) later = .ok rest := ih.mpr hlater
        rw [hrest] at hlater
        cases hb
        cases hlater
        rfl

end Checked

namespace Json

lemma checkField_eq_ok_iff {α : Type} {name : String} {check : Json → Checked α}
    {members : List (String × Json)} {a : α} :
    checkField name check members = .ok a ↔
      ∃ value, member? name members = some value ∧ check value = .ok a := by
  rw [checkField, Checked.under_eq_ok_iff]
  cases member? name members with
  | none => exact ⟨fun h => (nomatch h), fun ⟨_, h, _⟩ => (nomatch h)⟩
  | some value =>
    constructor
    · intro h
      exact ⟨value, rfl, h⟩
    · rintro ⟨_, hvalue, h⟩
      cases hvalue
      exact h

lemma checkAtLeast_eq_ok_iff {least n : Int} {value : Json} :
    checkAtLeast least value = .ok n ↔ checkInteger value = .ok n ∧ least ≤ n := by
  unfold checkAtLeast
  cases checkInteger value with
  | error e => exact ⟨fun h => (nomatch h), fun h => (nomatch h.1)⟩
  | ok m =>
    rw [Except.ok.injEq]
    dsimp only
    by_cases hless : m < least
    · rw [if_pos hless]
      refine ⟨fun h => (nomatch h), ?_⟩
      rintro ⟨rfl, hn⟩
      exact absurd hn (Int.not_le.mpr hless)
    · rw [if_neg hless, Except.ok.injEq]
      constructor
      · rintro rfl
        exact ⟨rfl, Int.not_lt.mp hless⟩
      · intro h
        exact h.1

lemma checkList_eq_ok_iff {α : Type} {check : Json → Checked α} {value : Json} {as : List α} :
    checkList check value = .ok as ↔
      ∃ items, value = .array items ∧
        List.Forall₂ (fun item a => check item = .ok a) items as := by
  constructor
  · intro h
    cases value
    case array items => exact ⟨items, rfl, Checked.items_eq_ok_iff.mp h⟩
    all_goals cases h
  · rintro ⟨items, rfl, h⟩
    exact Checked.items_eq_ok_iff.mpr h

/-- A currency that passed the check is in upper case. -/
lemma upper_of_checkCurrency {value : Json} {currency : String}
    (h : checkCurrency value = .ok currency) : Text.upper currency = currency := by
  have htext : ∃ s, Text.upper (Text.trim s) = currency := by
    cases value
    case string s => exact ⟨s, Except.ok.inj h⟩
    case brokenString s => exact ⟨s, Except.ok.inj h⟩
    all_goals cases h
  obtain ⟨s, hs⟩ := htext
  rw [← hs, Text.upper_upper]

end Json

/-! ## Accounts and requests -/

lemma Account.check_eq_ok_iff {intake : Intake} {payload : Json} {a : Account} :
    check intake payload = .ok a ↔
      ∃ members, payload.checkRecord intake recordName = .ok members ∧
        Json.checkField "id" Json.checkTrimmed members = .ok a.id ∧
        Json.checkField "balance" (Json.checkAtLeast 0) members = .ok a.balance ∧
        Json.checkField "currency" Json.checkCurrency members = .ok a.currency := by
  constructor
  · intro h
    obtain ⟨members, hmembers, h⟩ := bind_eq_ok_iff.mp h
    obtain ⟨⟨id, balance, currency⟩, hfields, h⟩ := bind_eq_ok_iff.mp h
    obtain ⟨hid, hfields⟩ := Checked.both_eq_ok_iff.mp hfields
    obtain ⟨hbalance, hcurrency⟩ := Checked.both_eq_ok_iff.mp hfields
    cases h
    exact ⟨members, hmembers, hid, hbalance, hcurrency⟩
  · rintro ⟨members, hmembers, hid, hbalance, hcurrency⟩
    refine bind_eq_ok_iff.mpr ⟨members, hmembers, ?_⟩
    have hfields := Checked.both_eq_ok_iff.mpr ⟨hbalance, hcurrency⟩
    exact bind_eq_ok_iff.mpr ⟨(a.id, a.balance, a.currency),
      Checked.both_eq_ok_iff.mpr ⟨hid, hfields⟩, rfl⟩

lemma Request.check_eq_ok_iff {intake : Intake} {payload : Json} {r : Request} :
    check intake payload = .ok r ↔
      ∃ members, payload.checkRecord intake recordName = .ok members ∧
        Json.checkField "accounts" (Json.checkList (Account.check intake)) members
          = .ok r.accounts ∧
        Json.checkField "instruction" Json.checkTrimmed members = .ok r.text := by
  constructor
  · intro h
    obtain ⟨members, hmembers, h⟩ := bind_eq_ok_iff.mp h
    obtain ⟨⟨accounts, text⟩, hfields, h⟩ := bind_eq_ok_iff.mp h
    obtain ⟨haccounts, htext⟩ := Checked.both_eq_ok_iff.mp hfields
    cases h
    exact ⟨members, hmembers, haccounts, htext⟩
  · rintro ⟨members, hmembers, haccounts, htext⟩
    refine bind_eq_ok_iff.mpr ⟨members, hmembers, ?_⟩
    exact bind_eq_ok_iff.mpr ⟨(r.accounts, r.text),
      Checked.both_eq_ok_iff.mpr ⟨haccounts, htext⟩, rfl⟩

/-- Some payload is checked into the request. -/
def Request.Accepted (r : Request) : Prop :=
  ∃ intake payload, Request.check intake payload = .ok r

/-- Every account of an accepted request passed the check of an account. -/
lemma Request.Accepted.exists_check {r : Request} (h : r.Accepted) {a : Account}
    (ha : a ∈ r.accounts) : ∃ intake payload, Account.check intake payload = .ok a := by
  obtain ⟨intake, payload, h⟩ := h
  obtain ⟨members, _, haccounts, _⟩ := Request.check_eq_ok_iff.mp h
  obtain ⟨value, _, hlist⟩ := Json.checkField_eq_ok_iff.mp haccounts
  obtain ⟨items, _, hitems⟩ := Json.checkList_eq_ok_iff.mp hlist
  have hchecked : ∀ a ∈ r.accounts, ∃ item, Account.check intake item = .ok a :=
    forall_mem_of_forall₂ (fun item _ hitem => ⟨item, hitem⟩) hitems
  exact ⟨intake, hchecked a ha⟩

lemma Request.Accepted.balance_nonneg {r : Request} (h : r.Accepted) {a : Account}
    (ha : a ∈ r.accounts) : 0 ≤ a.balance := by
  obtain ⟨intake, payload, hcheck⟩ := h.exists_check ha
  obtain ⟨members, _, _, hbalance, _⟩ := Account.check_eq_ok_iff.mp hcheck
  obtain ⟨value, _, hvalue⟩ := Json.checkField_eq_ok_iff.mp hbalance
  exact (Json.checkAtLeast_eq_ok_iff.mp hvalue).2

lemma Request.Accepted.upper_currency {r : Request} (h : r.Accepted) {a : Account}
    (ha : a ∈ r.accounts) : Text.upper a.currency = a.currency := by
  obtain ⟨intake, payload, hcheck⟩ := h.exists_check ha
  obtain ⟨members, _, _, _, hcurrency⟩ := Account.check_eq_ok_iff.mp hcheck
  obtain ⟨value, _, hvalue⟩ := Json.checkField_eq_ok_iff.mp hcurrency
  exact Json.upper_of_checkCurrency hvalue

end Remittance
