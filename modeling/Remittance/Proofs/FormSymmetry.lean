import Remittance.Proofs.Comparison
import Remittance.Proofs.Conformance
import Remittance.Proofs.FailureReport
import Remittance.Proofs.JoinedWords

/-!
# The two forms of a sentence say the same

A transfer may be written from the debit or from the credit side.  Both sentences are made of the
same words in a different order, and `Sentence.read_text` gives the instruction that they are read
as: it is the same but for its kind.  No stage looks at the kind, so that it only comes back in the
report.  `Request.IsRewrittenAs` is what two such requests have in common, and `clear_forms_agree`
puts the two parts together for whole requests, whatever becomes of them.
-/

namespace Remittance

/-! ## Sentences that are written out -/

namespace Sentence

/-- The text of the sentence with the given amount and currency words, account ids and day. -/
def text (kind : Kind) (amount currency debit credit : String) (date : Option String) : String :=
  " ".intercalate (words kind amount currency debit credit date)

example : text .debit "5" "USD" "a" "b" none =
    "DEBIT 5 USD FROM ACCOUNT a FOR CREDIT TO ACCOUNT b" := by
  decide +kernel

example : text .credit "5" "USD" "a" "b" (some "2030-01-01") =
    "CREDIT 5 USD TO ACCOUNT b FOR DEBIT FROM ACCOUNT a ON 2030-01-01" := by
  decide +kernel

/-- The keywords of all forms. -/
def keywords : List String :=
  ["DEBIT", "CREDIT", "FROM", "TO", "ACCOUNT", "FOR", "ON"]

/-- The words that a sentence is written with can all stand in a sentence. -/
def ArePlain (amount currency debit credit : String) (date : Option String) : Prop :=
  ∀ w ∈ [amount, currency, debit, credit] ++ date.toList, Text.IsPlainWord w

instance (amount currency debit credit : String) (date : Option String) :
    Decidable (ArePlain amount currency debit credit date) :=
  inferInstanceAs
    (Decidable (∀ w ∈ [amount, currency, debit, credit] ++ date.toList, Text.IsPlainWord w))

section Written

variable {amount currency debit credit : String} {date : Option String}

/-- Every word of a sentence is a keyword or one of the words that it is written with. -/
lemma mem_words {kind : Kind} {w : String}
    (h : w ∈ words kind amount currency debit credit date) :
    w ∈ keywords ∨ w ∈ [amount, currency, debit, credit] ++ date.toList := by
  have hsubset : words kind amount currency debit credit date ⊆
      keywords ++ ([amount, currency, debit, credit] ++ date.toList) := by
    cases kind <;> cases date <;>
      simp only [words, firstPhrase, secondPhrase, Kind.keyword, dateKeyword, keywords,
        List.cons_append, List.nil_append, List.cons_subset, List.nil_subset, List.mem_cons,
        List.not_mem_nil, Option.toList_some, Option.toList_none, true_or, or_true, and_true,
        or_false]
  exact List.mem_append.mp (hsubset h)

/-- The keywords of a form are plain words too. -/
lemma isPlainWord_of_mem_words {kind : Kind} (h : ArePlain amount currency debit credit date) :
    ∀ w ∈ words kind amount currency debit credit date, Text.IsPlainWord w := by
  have hkeywords : ∀ w ∈ keywords, Text.IsPlainWord w := by decide +kernel
  intro w hw
  rcases mem_words hw with hw | hw
  · exact hkeywords w hw
  · exact h w hw

/-- Words with every phrase in its place are read as they stand. -/
lemma parse_of_phrases {kind : Kind} {rest : List String}
    {w₀ w₁ w₂ w₃ w₄ w₅ w₆ w₇ w₈ w₉ w₁₀ : String}
    (hkind : Kind.ofKeyword? (Text.upper w₀) = some kind)
    (hfirst : isPhrase (firstPhrase kind) [w₃, w₄] = true)
    (hsecond : isPhrase (secondPhrase kind) [w₆, w₇, w₈, w₉] = true)
    (hdate : readDate w₁₀ rest = .ok date) (hrest : rest.length ≤ 2) :
    parse (w₀ :: w₁ :: w₂ :: w₃ :: w₄ :: w₅ :: w₆ :: w₇ :: w₈ :: w₉ :: w₁₀ :: rest) =
      .ok (assemble kind w₁ w₂ w₅ w₁₀ date) := by
  rw [parse_eleven rfl (by simp only [List.length_cons, leastWords, mostWords]; omega), hkind]
  simp only [hfirst, hsecond, hdate, Bool.not_true, Bool.false_eq_true, if_false]
  rfl

/-- The day that was written is read. -/
lemma readDate_written (second : String) (date : Option String) :
    readDate second (match date with | none => [] | some day => [dateKeyword, day]) =
      .ok date := by
  have hkeyword : isPhrase [dateKeyword] [dateKeyword] = true := by decide +kernel
  cases date with
  | none => rfl
  | some day => rw [readDate, if_pos hkeyword]

/-- The parser reads the words of a sentence back, whatever they are. -/
lemma parse_words (kind : Kind) (amount currency debit credit : String) (date : Option String) :
    parse (words kind amount currency debit credit date) =
      .ok ⟨kind, Number.capture amount, Text.upper currency, debit, credit, date⟩ := by
  have hdate := readDate_written
  cases kind with
  | debit =>
    exact parse_of_phrases (by decide +kernel) (by decide +kernel) (by decide +kernel)
      (hdate credit date) (by cases date <;> simp)
  | credit =>
    exact parse_of_phrases (by decide +kernel) (by decide +kernel) (by decide +kernel)
      (hdate debit date) (by cases date <;> simp)

/-- Both forms are read as the same instruction, each under its own kind. -/
theorem read_text (kind : Kind) (h : ArePlain amount currency debit credit date) :
    read (text kind amount currency debit credit date) =
      .ok ⟨kind, Number.capture amount, Text.upper currency, debit, credit, date⟩ := by
  rw [read, text, Text.words_intercalate (isPlainWord_of_mem_words h), parse_words]

/-- A sentence of plain words has nothing to trim. -/
lemma trim_text (kind : Kind) (h : ArePlain amount currency debit credit date) :
    Text.trim (text kind amount currency debit credit date) =
      text kind amount currency debit credit date :=
  Text.trim_intercalate (isPlainWord_of_mem_words h)

lemma text_ne_empty (kind : Kind) (h : ArePlain amount currency debit credit date) :
    text kind amount currency debit credit date ≠ "" := by
  intro hempty
  have hplain : ∀ w ∈ words kind amount currency debit credit date, Text.IsPlainWord w :=
    isPlainWord_of_mem_words h
  have hwords := Text.words_intercalate hplain
  rw [text] at hempty
  rw [hempty] at hwords
  cases hwords

end Written

end Sentence

/-! ## No stage looks at the kind -/

/-- The same instruction, written from the given side. -/
def Instruction.withKind {α δ : Type} (kind : Kind) (i : Instruction α δ) : Instruction α δ :=
  { i with kind }

/-- The same transaction, reported as written from the given side. -/
def Transaction.withKind (kind : Kind) (t : Transaction) : Transaction :=
  { t with kind := kind.keyword }

/-- The same failure, reported as that of an instruction written from the given side. -/
def Failure.withKind (kind : Kind) (f : Failure) : Failure :=
  { f with context := { f.context with kind := some kind.keyword } }

namespace Instruction

lemma judge_withKind (kind : Kind) (i : RawInstruction) :
    (i.withKind kind).judge = withKind kind <$> i.judge :=
  judge_map (f := fun _ => kind) (g := id) rfl rfl rfl rfl rfl (id_map _).symm

lemma cover_withKind (kind : Kind) (order : Order) (accounts : List Account) :
    (order.withKind kind).cover accounts = withKind kind <$> order.cover accounts :=
  cover_map rfl rfl rfl accounts

end Instruction

lemma FailureContext.ofInstruction_withKind (kind : Kind) (code : StatusCode) (reason : String)
    (i : RawInstruction) (accounts : List Account) :
    ofInstruction code reason (i.withKind kind) accounts =
      { ofInstruction code reason i accounts with kind := some kind.keyword } :=
  rfl

namespace Request

/-- The second request has the accounts of the first and a text that is read as the same
instruction, but for its kind. -/
structure IsRewrittenAs (first second : Request) (kind : Kind) : Prop where
  accounts : second.accounts = first.accounts
  read : ∃ i, Sentence.read first.text = .ok i ∧ Sentence.read second.text = .ok (i.withKind kind)

namespace IsRewrittenAs

variable {first second : Request} {kind : Kind}

lemma instruction (h : first.IsRewrittenAs second kind) :
    second.instruction = first.instruction.withKind kind := by
  obtain ⟨i, hfirst, hsecond⟩ := h.read
  rw [Request.instruction, Request.instruction, ← Sentence.eq_reading_of_parse hfirst,
    ← Sentence.eq_reading_of_parse hsecond]
  rfl

lemma parallels (h : first.IsRewrittenAs second kind) : first.Parallels second := by
  refine ⟨h.accounts, ?_, ?_, Instruction.withKind kind, ?_⟩
  · rw [h.instruction]
    rfl
  · rw [h.instruction]
    rfl
  · obtain ⟨i, hfirst, hsecond⟩ := h.read
    rw [hfirst, hsecond]
    rfl

lemma involved (h : first.IsRewrittenAs second kind) : second.involved = first.involved :=
  h.parallels.involved

/-- Both requests come to the same order, or are turned down for the same reason. -/
lemma judge (h : first.IsRewrittenAs second kind) :
    second.judge = Instruction.withKind kind <$> first.judge := by
  refine h.parallels.judge ?_ (Instruction.cover_withKind kind)
  rw [h.instruction, Instruction.judge_withKind]

/-- The sentence was read, so that every failure shows its kind. -/
lemma failure (h : first.IsRewrittenAs second kind) {r : Rejection} (hr : first.judge = .error r) :
    second.failure r = (first.failure r).withKind kind := by
  obtain ⟨i, hfirst, _⟩ := h.read
  have hcode : ¬ r.code.isSyntactic = true := by
    rw [isSyntactic_eq_true_iff]
    rcases judge_eq_error hr with hread | ⟨_, _, _, hresolve | ⟨_, hlate⟩⟩
    · rw [hfirst] at hread
      cases hread
    · rw [code_of_resolve hresolve]
      decide
    · exact not_or.mpr ⟨hlate.1, hlate.2.1⟩
  rw [Request.failure, Request.failure, h.instruction, h.involved]
  simp only [Failure.ofRejection, Failure.describe, FailureContext.describe, if_neg hcode,
    FailureContext.ofInstruction_withKind, Failure.withKind]

variable {today : Day}

lemma outcome_of_order (h : first.IsRewrittenAs second kind) {order : Order}
    (horder : first.judge = .ok order) :
    (clear second today).outcome =
      .ok ((Transaction.ofOrder order first.involved today).withKind kind) := by
  have hjudge : second.judge = .ok (order.withKind kind) := by
    rw [h.judge, horder]
    rfl
  refine outcome_eq_ok_iff.mpr ⟨order.withKind kind, hjudge, ?_⟩
  rw [h.involved]
  rfl

lemma outcome_of_rejection (h : first.IsRewrittenAs second kind) {r : Rejection}
    (hr : first.judge = .error r) :
    (clear second today).outcome = .error (.failure ((first.failure r).withKind kind)) := by
  have hjudge : second.judge = .error r := by
    rw [h.judge, hr]
    rfl
  refine outcome_eq_error_iff.mpr ⟨r, hjudge, ?_⟩
  rw [h.failure hr]

end IsRewrittenAs

end Request

/-! ## Requests in both forms -/

/-- What becomes of a request in each of the two forms is the same, except that each form is
reported under its own kind. -/
def SameButKind (outcome : Kind → Except Refusal Transaction) : Prop :=
  (∃ t : Transaction, ∀ kind, outcome kind = .ok (t.withKind kind)) ∨
    ∃ f : Failure, ∀ kind, outcome kind = .error (.failure (f.withKind kind))

/-- The payload of a request with the given accounts and text. -/
def Json.request (accounts : Json) (text : String) : Json :=
  .object [("accounts", accounts), ("instruction", .string text)]

/-- The accounts and the text of a request are checked apart from each other. -/
lemma Request.check_request (accounts : Json) (text : String) :
    check .direct (Json.request accounts text) =
      (fun (accounts, text) => ⟨accounts, text⟩) <$> Checked.both
        (.under (.field "accounts") (Json.checkList (Account.check .direct) accounts))
        (.under (.field "instruction") (Json.checkTrimmed (.string text))) := by
  have haccounts : Json.checkField "accounts" (Json.checkList (Account.check .direct))
      [("accounts", accounts), ("instruction", .string text)] =
        .under (.field "accounts") (Json.checkList (Account.check .direct) accounts) := by
    simp [Json.checkField, Json.member?]
  have hinstruction : Json.checkField "instruction" Json.checkTrimmed
      [("accounts", accounts), ("instruction", .string text)] =
        .under (.field "instruction") (Json.checkTrimmed (.string text)) := by
    simp [Json.checkField, Json.member?]
  change (Checked.both (Json.checkField "accounts" _ _)
    (Json.checkField "instruction" _ _) >>= _) = _
  rw [haccounts, hinstruction]
  cases Checked.both
      (.under (.field "accounts") (Json.checkList (Account.check .direct) accounts))
      (.under (.field "instruction") (Json.checkTrimmed (.string text))) <;> rfl

lemma Request.check_request_of_ok {payload : Json} {accounts : List Account}
    (haccounts : Json.checkList (Account.check .direct) payload = .ok accounts) {text : String}
    (hne : Text.trim text ≠ "") :
    check .direct (payload.request text) = .ok ⟨accounts, Text.trim text⟩ := by
  rw [check_request, haccounts, Json.checkTrimmed_eq_ok_iff.mpr ⟨text, rfl, rfl, hne⟩]
  rfl

/-- Texts of which something is left do not matter to the check of a payload. -/
lemma Request.exists_check_trim (accounts : Json) :
    ∃ checked : Checked (List Account), ∀ text, Text.trim text ≠ "" →
      check .direct (Json.request accounts text) = (⟨·, Text.trim text⟩) <$> checked := by
  refine ⟨.under (.field "accounts") (Json.checkList (Account.check .direct) accounts),
    fun text hne => ?_⟩
  rw [check_request, Json.checkTrimmed_eq_ok_iff.mpr ⟨text, rfl, rfl, hne⟩]
  cases Checked.under (.field "accounts") (Json.checkList (Account.check .direct) accounts) <;> rfl

/-- Texts with nothing to trim do not matter to the check of a payload. -/
lemma Request.exists_check_request (accounts : Json) :
    ∃ checked : Checked (List Account), ∀ text, Text.trim text = text → text ≠ "" →
      check .direct (Json.request accounts text) = (⟨·, text⟩) <$> checked := by
  obtain ⟨checked, hchecked⟩ := exists_check_trim accounts
  refine ⟨checked, fun text htrim hne => ?_⟩
  rw [hchecked text (htrim.symm ▸ hne), htrim]

section Forms

variable {amount currency debit credit : String} {date : Option String}

/-- Of two requests in the two forms, each is the other one rewritten. -/
lemma isRewrittenAs_text (h : Sentence.ArePlain amount currency debit credit date)
    (accounts : List Account) (kind : Kind) :
    Request.IsRewrittenAs ⟨accounts, Sentence.text .debit amount currency debit credit date⟩
      ⟨accounts, Sentence.text kind amount currency debit credit date⟩ kind := by
  refine ⟨rfl, ⟨.debit, Number.capture amount, Text.upper currency, debit, credit, date⟩, ?_, ?_⟩
  · dsimp only
    exact Sentence.read_text .debit h
  · dsimp only
    rw [Instruction.withKind]
    exact Sentence.read_text kind h

lemma sameButKind_clear (h : Sentence.ArePlain amount currency debit credit date)
    (accounts : List Account) (today : Day) :
    SameButKind fun kind =>
      (clear ⟨accounts, Sentence.text kind amount currency debit credit date⟩ today).outcome := by
  have hrewritten := isRewrittenAs_text h accounts
  cases hjudge : Request.judge
      ⟨accounts, Sentence.text .debit amount currency debit credit date⟩ with
  | ok order => exact .inl ⟨_, fun kind => (hrewritten kind).outcome_of_order hjudge⟩
  | error r => exact .inr ⟨_, fun kind => (hrewritten kind).outcome_of_rejection hjudge⟩

/-- A request may be written from either side: it is settled or turned down in the same way, and the
report of it differs in the kind alone.  A payload whose accounts are not of the schema has the same
violations in both forms. -/
theorem clear_forms_agree (h : Sentence.ArePlain amount currency debit credit date) (today : Day) :
    (∀ accounts : List Account, SameButKind fun kind =>
      (clear ⟨accounts, Sentence.text kind amount currency debit credit date⟩ today).outcome) ∧
    ∀ accounts : Json,
      (SameButKind fun kind => (clearPayload (accounts.request
        (Sentence.text kind amount currency debit credit date)) today).outcome) ∨
      ∃ found, ∀ kind, (clearPayload (accounts.request
        (Sentence.text kind amount currency debit credit date)) today).outcome =
          .error (.violations found) := by
  refine ⟨fun accounts => sameButKind_clear h accounts today, fun accounts => ?_⟩
  obtain ⟨checked, hchecked⟩ := Request.exists_check_request accounts
  have hcheck := fun kind => hchecked _ (Sentence.trim_text kind h) (Sentence.text_ne_empty kind h)
  cases checked with
  | ok accounts =>
    have hclear : ∀ kind, clearPayload _ today = clear _ today := fun kind => by
      rw [clearPayload, hcheck kind]
      rfl
    simp only [hclear]
    exact .inl (sameButKind_clear h accounts today)
  | error found =>
    refine .inr ⟨found, fun kind => ?_⟩
    rw [clearPayload, hcheck kind]
    rfl

/-- A transfer for a leap day in both forms, with a hexadecimal amount, a currency in lower case and
an account that is named like a keyword. -/
theorem clear_forms_agree_leapDay :
    Sentence.ArePlain "0x10" "ngn" "ON" "b" (some "2028-02-29") ∧
      (SameButKind fun kind => (clear ⟨[⟨"b", 0, "NGN"⟩, ⟨"ON", 16, "NGN"⟩],
        Sentence.text kind "0x10" "ngn" "ON" "b" (some "2028-02-29")⟩
          ⟨2028, 2, 28, by decide⟩).outcome) ∧
      (clear ⟨[⟨"b", 0, "NGN"⟩, ⟨"ON", 16, "NGN"⟩],
        Sentence.text .credit "0x10" "ngn" "ON" "b" (some "2028-02-29")⟩
          ⟨2028, 2, 28, by decide⟩).outcome.toOption.map (fun t => (t.kind, t.amount, t.code)) =
        some ("CREDIT", 16, "AP02") := by
  have hplain : Sentence.ArePlain "0x10" "ngn" "ON" "b" (some "2028-02-29") := by decide +kernel
  exact ⟨hplain, (clear_forms_agree hplain ⟨2028, 2, 28, by decide⟩).1 _, by decide +kernel⟩

end Forms

end Remittance
