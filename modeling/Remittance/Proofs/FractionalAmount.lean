import Remittance.Proofs.Precedence
import Remittance.Proofs.Rounding

/-!
# Amounts that are written with a fraction

An amount word in decimal notation may denote a number that is no integer.  The amount that is
captured from it is the nearest floating-point number, and the screening asks whether that number,
not the written one, is an integer.  `clear_fractional_amount` says what follows: such a request
moves an integer that the written number is rounded to, or nothing at all, and once its accounts
were found and their ids screened it is turned down for its amount exactly if the written number is
not rounded to a positive integer.

That the former happens is shown by `justAboveOne`, whose amount differs from one by less than the
format can tell.
-/

namespace Remittance

open Numeral Requirement

namespace Request

/-- The word of a text that stands for the amount. -/
def amountWord (request : Request) : String :=
  Sentence.wordAt (Text.words request.text) 1

/-- The amount word is in decimal notation, and the number that it denotes is no integer. -/
structure WritesFraction (request : Request) (q : ℚ) : Prop where
  denotes : Denotes request.amountWord.toList q
  fraction : ¬∃ n : Int, q = n

/-- The accounts of the instruction meet what is checked before the amount. -/
structure AccountsPass (request : Request) : Prop where
  debit : ∃ a ∈ request.accounts, a.id = request.instruction.debit
  credit : ∃ a ∈ request.accounts, a.id = request.instruction.credit
  debitId : IsAccountId request.instruction.debit
  creditId : IsAccountId request.instruction.credit
  distinct : request.instruction.debit ≠ request.instruction.credit

variable {request : Request} {q : ℚ}

lemma WritesFraction.ne_zero (h : request.WritesFraction q) : q ≠ 0 :=
  fun hzero => h.fraction ⟨0, by rw [hzero, Int.cast_zero]⟩

/-- A written fraction becomes an integer amount by rounding only. -/
lemma WritesFraction.amount_eq_whole_iff (h : request.WritesFraction q) {n : Int} :
    request.instruction.amount = .whole n ↔ Binary64.RoundsToInt q n := by
  obtain ⟨d, hcapture, hvalue⟩ := h.denotes.capture h.fraction
  have hamount : request.instruction.amount = .number (.capture request.amountWord) := by
    rw [instruction, Instruction.mapAmount, amountWord, Sentence.amount_reading]
  have hrounds : Binary64.Rounds q d.nearest := hvalue ▸ d.rounds_nearest
  rw [hamount, hcapture, ← hrounds.toInt?_eq_some_iff h.ne_zero, Number.ofBinary, Scalar.whole]
  cases d.nearest.toInt? <;> simp

/-- The amount decides once the sentence was read and the accounts passed. -/
lemma firstUnmet_invalidAmount_iff {i : Instruction Number String}
    (hread : Sentence.read request.text = .ok i) (haccounts : request.AccountsPass) :
    FirstUnmet request.requirements .invalidAmount ↔
      ¬∃ n : Int, 1 ≤ n ∧ request.instruction.amount = .whole n := by
  have hsentence := (Sentence.decides_parse (Text.words request.text)).allMet hread
  have hearlier : AllMet (Sentence.requirements (Text.words request.text) ++
      [⟨∃ a ∈ request.accounts, a.id = request.instruction.debit, .accountNotFound⟩,
        ⟨∃ a ∈ request.accounts, a.id = request.instruction.credit, .accountNotFound⟩,
        ⟨IsAccountId request.instruction.debit, .invalidAccountId⟩,
        ⟨IsAccountId request.instruction.credit, .invalidAccountId⟩,
        ⟨request.instruction.debit ≠ request.instruction.credit, .sameAccount⟩]) := by
    simp only [allMet_append, allMet_cons]
    exact ⟨hsentence, haccounts.debit, haccounts.credit, haccounts.debitId, haccounts.creditId,
      haccounts.distinct, List.forall_mem_nil _⟩
  exact firstUnmet_append_cons_iff hearlier (by simp)

end Request

/-- A request whose amount is written with a fraction moves the integer that the written number is
rounded to, if it moves anything.  Once the accounts were found and their ids screened, it is turned
down for its amount exactly if that number is not rounded to a positive integer. -/
theorem clear_fractional_amount {request : Request} (haccepted : request.Accepted)
    {i : Instruction Number String} (hread : Sentence.read request.text = .ok i) {q : ℚ}
    (hq : request.WritesFraction q) (today : Day) :
    (∀ t, (clear request today).outcome = .ok t → 1 ≤ t.amount ∧ Binary64.RoundsToInt q t.amount) ∧
      (request.AccountsPass →
        ((∃ f, (clear request today).outcome = .error (.failure f) ∧ f.code = .invalidAmount) ↔
          ¬∃ n : Int, 1 ≤ n ∧ Binary64.RoundsToInt q n)) := by
  constructor
  · intro t ht
    obtain ⟨order, hcomes, rfl⟩ := exists_order_of_transaction ht
    exact ⟨hcomes.passes.one_le_amount, hq.amount_eq_whole_iff.mp hcomes.passes.amount⟩
  · intro haccounts
    rw [exists_failure_iff haccepted, Request.firstUnmet_invalidAmount_iff hread haccounts]
    simp only [hq.amount_eq_whole_iff]

/-- A transfer of one hundred and one eighth, written with a sign, a fraction and an exponent. -/
def oneEighth : Request where
  accounts := [⟨"a", 500, "USD"⟩, ⟨"b", 0, "USD"⟩]
  text := "CREDIT +1.00125e+2 USD TO ACCOUNT b FOR DEBIT FROM ACCOUNT a ON 2030-01-01"

lemma words_oneEighth : Text.words oneEighth.text =
    ["CREDIT", "+1.00125e+2", "USD", "TO", "ACCOUNT", "b", "FOR", "DEBIT", "FROM", "ACCOUNT", "a",
      "ON", "2030-01-01"] := by
  decide +kernel

lemma oneEighth_writesFraction : oneEighth.WritesFraction (801 / 8) := by
  have hword : oneEighth.amountWord.toList = ['+'] ++ ([1].map Nat.digitChar ++
      ('.' :: [0, 0, 1, 2, 5].map Nat.digitChar ++ 'e' :: (['+'] ++ [2].map Nat.digitChar))) := by
    rw [Request.amountWord, words_oneEighth]
    decide
  have hdenotes := Denotes.intro .plus (.of_digits [1] (by decide) (by decide))
    (.present (.of_digits [0, 0, 1, 2, 5] (by decide) (by decide)))
    (.present (.inl rfl) .plus (.of_digits [2] (by decide) (by decide)))
  constructor
  · rw [hword]
    convert hdenotes using 1
    norm_num [ofDigits]
  · rintro ⟨n, hn⟩
    have hint : (801 : Int) = n * 8 := by
      rw [div_eq_iff (by norm_num)] at hn
      exact_mod_cast hn
    omega

lemma oneEighth_accountsPass : oneEighth.AccountsPass := by
  have hdebit : oneEighth.instruction.debit = "a" := by
    rw [Request.instruction, words_oneEighth]
    decide +kernel
  have hcredit : oneEighth.instruction.credit = "b" := by
    rw [Request.instruction, words_oneEighth]
    decide +kernel
  constructor <;> simp only [hdebit, hcredit]
  · decide
  · decide
  · exact List.all_eq_true.mp (by decide)
  · exact List.all_eq_true.mp (by decide)
  · decide

/-- The transfer is turned down for its amount, and so its amount is rounded to no integer. -/
theorem clear_fractional_amount_oneEighth :
    oneEighth.Accepted ∧ (∃ i, Sentence.read oneEighth.text = .ok i) ∧
      oneEighth.WritesFraction (801 / 8) ∧ oneEighth.AccountsPass ∧
      (∃ f, (clear oneEighth ⟨2026, 1, 1, by decide⟩).outcome = .error (.failure f) ∧
        f.code = .invalidAmount) ∧
      ¬∃ n : Int, 1 ≤ n ∧ Binary64.RoundsToInt (801 / 8) n := by
  have haccepted : oneEighth.Accepted := ⟨.direct, oneEighth.payload, rfl⟩
  obtain ⟨i, hread⟩ : ∃ i, Sentence.read oneEighth.text = .ok i := by
    rw [Sentence.read, words_oneEighth]
    exact ⟨_, rfl⟩
  obtain ⟨_, hiff⟩ := clear_fractional_amount haccepted hread oneEighth_writesFraction
    ⟨2026, 1, 1, by decide⟩
  have hcode : oneEighth.judge.mapError Rejection.code = .error .invalidAmount := by
    decide +kernel
  have hfailed : ∃ f, (clear oneEighth ⟨2026, 1, 1, by decide⟩).outcome = .error (.failure f) ∧
      f.code = .invalidAmount := by
    cases hjudge : oneEighth.judge with
    | ok order =>
      rw [hjudge] at hcode
      cases hcode
    | error r =>
      rw [hjudge] at hcode
      exact ⟨_, outcome_eq_error_iff.mpr ⟨r, hjudge, rfl⟩, Except.error.inj hcode⟩
  exact ⟨haccepted, ⟨i, hread⟩, oneEighth_writesFraction, oneEighth_accountsPass, hfailed,
    (hiff oneEighth_accountsPass).mp hfailed⟩

/-- A transfer of a little more than one. -/
def justAboveOne : Request where
  accounts := [⟨"a", 10, "USD"⟩, ⟨"b", 0, "USD"⟩]
  text := "DEBIT 1.00000000000000000001 USD FROM ACCOUNT a FOR CREDIT TO ACCOUNT b"

lemma words_justAboveOne : Text.words justAboveOne.text =
    ["DEBIT", "1.00000000000000000001", "USD", "FROM", "ACCOUNT", "a", "FOR", "CREDIT", "TO",
      "ACCOUNT", "b"] := by
  decide +kernel

lemma justAboveOne_writesFraction : justAboveOne.WritesFraction (1 + 1 / 10 ^ 20) := by
  have hword : justAboveOne.amountWord.toList = [] ++ ([1].map Nat.digitChar ++
      ('.' :: [0, 0, 0, 0, 0, 0, 0, 0, 0, 0, 0, 0, 0, 0, 0, 0, 0, 0, 0, 1].map Nat.digitChar ++
        [])) := by
    rw [Request.amountWord, words_justAboveOne]
    decide
  have hdenotes := Denotes.intro .absent (.of_digits [1] (by decide) (by decide))
    (.present (.of_digits [0, 0, 0, 0, 0, 0, 0, 0, 0, 0, 0, 0, 0, 0, 0, 0, 0, 0, 0, 1] (by decide)
      (by decide))) .absent
  constructor
  · rw [hword]
    convert hdenotes using 1
    norm_num [ofDigits]
  · rintro ⟨n, hn⟩
    have hint : (100000000000000000001 : Int) = n * 100000000000000000000 := by
      have hmul : (1 + 1 / 10 ^ 20 : ℚ) * 10 ^ 20 = n * 10 ^ 20 := by rw [hn]
      norm_num at hmul
      exact_mod_cast hmul
    omega

/-- One is moved where the text asks for more than that, and for no integer. -/
theorem justAboveOne_moved :
    justAboveOne.Accepted ∧ (∃ i, Sentence.read justAboveOne.text = .ok i) ∧
      justAboveOne.WritesFraction (1 + 1 / 10 ^ 20) ∧
      (clear justAboveOne ⟨2026, 1, 1, by decide⟩).outcome.toOption.map (·.amount) = some 1 := by
  refine ⟨⟨.direct, justAboveOne.payload, rfl⟩, ?_, justAboveOne_writesFraction, by decide +kernel⟩
  rw [Sentence.read, words_justAboveOne]
  exact ⟨_, rfl⟩

end Remittance
