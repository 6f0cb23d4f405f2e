import Remittance.Proofs.FormSymmetry
import Remittance.Proofs.WordRuns

/-!
# How a text is spaced

An instruction may be written with any blank ends and with any gaps between its words.  The ends are
trimmed by the check of the payload and the gaps are word breaks; the two sets of characters differ,
and a character of one may well stand where the other is looked for.

The check sees a text only through its trimmed form (`Request.check_congr_trim`), and the stages see
it only through its words (`clear_congr_words`).  `clearPayload_spacing` is what follows for whole
payloads, violations of the schema and the journal included.
-/

namespace Remittance

/-- Payloads whose texts agree once they are trimmed are checked alike. -/
lemma Request.check_congr_trim (accounts : Json) {s t : String} (h : Text.trim s = Text.trim t) :
    check .direct (accounts.request s) = check .direct (accounts.request t) := by
  have hcheck : Json.checkTrimmed (.string s) = Json.checkTrimmed (.string t) := by
    rw [Json.checkTrimmed, Json.checkTrimmed, h]
  rw [check_request, check_request, hcheck]

/-- The stages see nothing of a text but its words. -/
lemma clear_congr_words (accounts : List Account) {s t : String} (h : Text.words s = Text.words t)
    (today : Day) : clear ⟨accounts, s⟩ today = clear ⟨accounts, t⟩ today := by
  have hread : Sentence.read s = Sentence.read t := by
    rw [Sentence.read, Sentence.read, h]
  simp only [clear, hread]

/-- Trimming does not reach the gap between two parts with content, and all gaps separate alike. -/
lemma Text.words_trim_append {front back : String} (hfront : HasContent front)
    (hback : HasContent back) {gap gap' : String} (hgap : IsGap gap) (hgap' : IsGap gap') :
    words (trim (front ++ gap ++ back)) = words (trim (front ++ gap' ++ back)) := by
  obtain ⟨front', back', htrim⟩ := exists_trim_append hfront hback
  rw [htrim, htrim, words_append_gap hgap, words_append_gap hgap']

lemma Text.trim_append_ne_empty {front back : String} (hfront : HasContent front)
    (hback : HasContent back) {gap : String} (hgap : IsGap gap) :
    trim (front ++ gap ++ back) ≠ "" := by
  obtain ⟨front', back', htrim⟩ := exists_trim_append hfront hback
  rw [htrim]
  intro hempty
  obtain ⟨hempty, _⟩ := String.append_eq_empty_iff.mp hempty
  exact hgap.1 (String.append_eq_empty_iff.mp hempty).2

/-- How a text is spaced does not matter: neither blank ends that are put on it, nor which gap
stands between two parts with content. -/
theorem clearPayload_spacing (accounts : Json) (today : Day) :
    (∀ front text back, Text.IsBlank front → Text.IsBlank back →
      clearPayload (accounts.request (front ++ text ++ back)) today =
        clearPayload (accounts.request text) today) ∧
    ∀ front gap gap' back, Text.HasContent front → Text.HasContent back → Text.IsGap gap →
      Text.IsGap gap' →
      clearPayload (accounts.request (front ++ gap ++ back)) today =
        clearPayload (accounts.request (front ++ gap' ++ back)) today := by
  constructor
  · intro front text back hfront hback
    have hcheck := Request.check_congr_trim accounts (Text.trim_append_blank hfront hback text)
    rw [clearPayload, hcheck, clearPayload]
  · intro front gap gap' back hfront hback hgap hgap'
    obtain ⟨checked, hchecked⟩ := Request.exists_check_trim accounts
    have hwords := Text.words_trim_append hfront hback hgap hgap'
    rw [clearPayload, clearPayload, hchecked _ (Text.trim_append_ne_empty hfront hback hgap),
      hchecked _ (Text.trim_append_ne_empty hfront hback hgap')]
    cases checked with
    | error found => rfl
    | ok accounts => exact clear_congr_words accounts hwords today

/-- The payload of two accounts in dollars. -/
def dollarAccounts : Json :=
  .array [
    .object [("id", .string "a"), ("balance", .integer 7), ("currency", .string "usd")],
    .object [("id", .string "b"), ("balance", .integer 0), ("currency", .string "USD")]]

/-- A next line, a line separator and an information separator are taken off the ends, and separate
no words; a word space separates words, and stays at an end, where it adds none. -/
theorem clearPayload_spacing_mixed :
    Text.IsBlank "\u0085 " ∧ Text.IsBlank "\u2028\x1c" ∧
      clearPayload (dollarAccounts.request
          ("\u0085 " ++ "debit 5 usd from account a for credit to account b" ++ "\u2028\x1c"))
          ⟨2026, 1, 1, by decide⟩ =
        clearPayload (dollarAccounts.request "debit 5 usd from account a for credit to account b")
          ⟨2026, 1, 1, by decide⟩ ∧
      Text.HasContent "\u1361debit" ∧
      Text.HasContent "5 usd from account a for credit to account b\u2028" ∧
      Text.IsGap "\u1361\t" ∧ Text.IsGap " " ∧
      clearPayload (dollarAccounts.request
          ("\u1361debit" ++ "\u1361\t" ++ "5 usd from account a for credit to account b\u2028"))
          ⟨2026, 1, 1, by decide⟩ =
        clearPayload (dollarAccounts.request
          ("\u1361debit" ++ " " ++ "5 usd from account a for credit to account b\u2028"))
          ⟨2026, 1, 1, by decide⟩ ∧
      (clearPayload (dollarAccounts.request
          ("\u1361debit" ++ " " ++ "5 usd from account a for credit to account b\u2028"))
          ⟨2026, 1, 1, by decide⟩).outcome.toOption.map (·.code) = some "AP00" := by
  have hfront : Text.IsBlank "\u0085 " := by decide +kernel
  have hback : Text.IsBlank "\u2028\x1c" := by decide +kernel
  have hfirst : Text.HasContent "\u1361debit" := by decide +kernel
  have hlater : Text.HasContent "5 usd from account a for credit to account b\u2028" := by
    decide +kernel
  have hgap : Text.IsGap "\u1361\t" := by decide +kernel
  have hspace : Text.IsGap " " := by decide +kernel
  obtain ⟨hends, hgaps⟩ := clearPayload_spacing dollarAccounts ⟨2026, 1, 1, by decide⟩
  exact ⟨hfront, hback, hends _ _ _ hfront hback, hfirst, hlater, hgap, hspace,
    hgaps _ _ _ _ hfirst hlater hgap hspace, by decide +kernel⟩

end Remittance
