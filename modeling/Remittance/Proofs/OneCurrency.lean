import Remittance.Proofs.Conformance
import Remittance.Proofs.Conservation

/-!
# No transfer crosses currencies

Currencies meet in three places.  Those of the accounts are compared with each other as they are,
their support is looked up after they were put in upper case once more, and the currency of the
instruction is compared with that of the first account alone.

For requests that payloads are checked into this adds up to one currency: that of the transaction,
of the text, of every supplied account with one of the two ids, and of the entries.
`Transaction.IsInOneCurrency` says so in terms of the payload, and `clear_in_one_currency` proves it.
-/

namespace Remittance

/-- All that a transaction is about is in its currency. -/
structure Transaction.IsInOneCurrency (t : Transaction) (payload : Json) (request : Request) :
    Prop where
  supported : t.currency ∈ supportedCurrencies
  /-- The text gives the currency with its third word. -/
  word : ∃ word, (Text.words request.text)[2]? = some word ∧ t.currency = Text.upper word
  /-- Every supplied account with one of the two ids gives the currency. -/
  supplied : payload.HasField "accounts" fun value =>
    ∃ items, value = .array items ∧
      List.Forall₂ (fun item a => item.DescribesAccount a ∧ (a.id = t.debit ∨ a.id = t.credit →
        item.HasField "currency" fun value => value.GivesCurrency t.currency))
        items request.accounts
  /-- There is one entry for every account with one of the two ids, in the order of the list. -/
  reported : t.accounts.map (fun e => (e.id, e.currency)) =
    (Account.withEither t.debit t.credit request.accounts).map fun a => (a.id, t.currency)

namespace Request

variable {request : Request} {order : Order}

/-- The text of a request that comes to an order has a third word. -/
lemma exists_currency_word (h : request.judge = .ok order) :
    ∃ word, (Text.words request.text)[2]? = some word ∧ order.currency = Text.upper word := by
  obtain ⟨i, hread, _⟩ := bind_eq_ok_iff.mp h
  have hmet := (Sentence.decides_parse _).allMet hread
  have hlength : Sentence.leastWords ≤ (Text.words request.text).length :=
    (Requirement.allMet_cons.mp hmet).1.1
  have htwo : 2 < (Text.words request.text).length := Nat.lt_of_lt_of_le (by decide) hlength
  refine ⟨_, List.getElem?_eq_getElem htwo, ?_⟩
  rw [(comesTo_of_judge h).passes.currency, upper_instruction_currency]
  change (Sentence.reading (Text.words request.text)).currency = _
  rw [Sentence.currency_reading, Sentence.wordAt, List.getD_eq_getElem _ _ htwo]

namespace ComesTo

/-- The accounts that an order names are in its currency. -/
lemma currency_of_id (h : request.ComesTo order) {a : Account} (ha : a ∈ request.accounts)
    (hid : a.id = order.debit ∨ a.id = order.credit) : a.currency = order.currency := by
  refine h.currency a ?_
  rw [h.involved_eq]
  exact Account.mem_withEither.mpr ⟨ha, hid⟩

/-- The entries of an order show the ids of its accounts and its currency. -/
lemma entries_ofOrder (h : request.ComesTo order) (today : Day) :
    (Transaction.ofOrder order request.involved today).accounts.map (fun e => (e.id, e.currency)) =
      (Account.withEither order.debit order.credit request.accounts).map
        fun a => (a.id, order.currency) := by
  have hcurrency : ∀ a ∈ request.involved, Text.upper a.currency = order.currency := by
    intro a ha
    rw [h.currency a ha, h.upper_currency]
  rw [← h.involved_eq, Transaction.ofOrder, List.map_map]
  refine List.map_congr_left fun a ha => ?_
  rw [Function.comp_apply, hcurrency a ha]

end ComesTo

end Request

/-- A transfer is in one currency: the text gives it, every supplied account with one of the two ids
has it, however often there is one, and the entries report it. -/
theorem clear_in_one_currency {intake : Intake} {payload : Json} {request : Request}
    (hcheck : Request.check intake payload = .ok request) {today : Day} {t : Transaction}
    (h : (clear request today).outcome = .ok t) : t.IsInOneCurrency payload request := by
  obtain ⟨order, hjudge, rfl⟩ := outcome_eq_ok_iff.mp h
  have hcomes := Request.comesTo_of_judge hjudge
  have hdescribes := Request.check_eq_ok_iff_describes.mp hcheck
  refine ⟨hcomes.passes.supported, Request.exists_currency_word hjudge, ?_,
    hcomes.entries_ofOrder today⟩
  refine hdescribes.accounts.imp fun value hvalue => ?_
  obtain ⟨items, hitems, heach⟩ := hvalue
  have hsupplied := forall₂_and_right.mpr ⟨heach, fun a ha => hcomes.currency_of_id ha⟩
  refine ⟨items, hitems, hsupplied.imp fun item a ⟨hitem, hcurrency⟩ => ⟨hitem, fun hid => ?_⟩⟩
  have hgives := hitem.currency
  rw [hcurrency hid] at hgives
  exact hgives

/-- Two accounts with one id and a third, each of which writes the dollar in its own way, beside an
account in another currency. -/
def dollarsWritten : Json :=
  .object [
    ("accounts", .array [
      .object [("id", .string "a"), ("balance", .integer 1), ("currency", .string " usd")],
      .object [("id", .string "c"), ("balance", .integer 9), ("currency", .string "EUR")],
      .object [("id", .string "a "), ("balance", .integer 8), ("currency", .string "Usd\u2028")],
      .object [("id", .string "b"), ("balance", .integer 0), ("currency", .string "USD")]]),
    ("instruction", .string "debit 0x5 uSd from account a for credit to account b")]

/-- The request that `dollarsWritten` is checked into. -/
def dollarsRead : Request where
  accounts := [⟨"a", 1, "USD"⟩, ⟨"c", 9, "EUR"⟩, ⟨"a", 8, "USD"⟩, ⟨"b", 0, "USD"⟩]
  text := "debit 0x5 uSd from account a for credit to account b"

/-- What `dollarsRead` comes to. -/
def dollarsMoved : Transaction where
  kind := "DEBIT"
  amount := 5
  currency := "USD"
  debit := "a"
  credit := "b"
  executeBy := none
  status := .successful
  code := "AP00"
  accounts := [⟨"a", 3, 1, "USD"⟩, ⟨"a", 3, 8, "USD"⟩, ⟨"b", 5, 0, "USD"⟩]

theorem clear_in_one_currency_dollars :
    Request.check .direct dollarsWritten = .ok dollarsRead ∧
      (clear dollarsRead ⟨2026, 1, 1, by decide⟩).outcome = .ok dollarsMoved ∧
      dollarsMoved.IsInOneCurrency dollarsWritten dollarsRead := by
  have hcheck : Request.check .direct dollarsWritten = .ok dollarsRead := by decide +kernel
  have hclear : (clear dollarsRead ⟨2026, 1, 1, by decide⟩).outcome = .ok dollarsMoved := by
    decide +kernel
  exact ⟨hcheck, hclear, clear_in_one_currency hcheck hclear⟩

end Remittance
