import Mathlib.Data.List.Forall2
import Remittance.Proofs.SentencePositions

/-!
# The forms of a sentence

A form gives every word of a sentence one `Role`.  `Says words i` means that the words fill the roles
of a form one by one and that the instruction `i` is what they say.  There are four forms: a debit
and a credit form, each with and without a day, of thirteen and of eleven words.

The parser accepts all four.  It also accepts lists of twelve words in which the second account id
is `ON` (`SharesWord`): the keyword in front of the day is then looked for in that very word.
-/

namespace Remittance.Sentence

/-- The part that a word has in a sentence. -/
inductive Role where
  | keyword (word : String)
  | amount
  | currency
  | debit
  | credit
  | date

/-- The words of a sentence without a day. -/
def undatedForm : Kind → List Role
  | .debit =>
    [.keyword "DEBIT", .amount, .currency, .keyword "FROM", .keyword "ACCOUNT", .debit,
      .keyword "FOR", .keyword "CREDIT", .keyword "TO", .keyword "ACCOUNT", .credit]
  | .credit =>
    [.keyword "CREDIT", .amount, .currency, .keyword "TO", .keyword "ACCOUNT", .credit,
      .keyword "FOR", .keyword "DEBIT", .keyword "FROM", .keyword "ACCOUNT", .debit]

/-- The words that a day adds to a sentence. -/
def dateForm : Option String → List Role
  | none => []
  | some _ => [.keyword "ON", .date]

/-- A word fills a role in a sentence that says the instruction. -/
def Role.FilledBy (i : Instruction Number String) : Role → String → Prop
  | .keyword k, word => Text.upper word = k
  | .amount, word => i.amount = Number.capture word
  | .currency, word => i.currency = Text.upper word
  | .debit, word => i.debit = word
  | .credit, word => i.credit = word
  | .date, word => i.date = some word

/-- The words are a sentence of one of the forms, and it says the instruction. -/
def Says (words : List String) (i : Instruction Number String) : Prop :=
  List.Forall₂ (Role.FilledBy i) (undatedForm i.kind ++ dateForm i.date) words

/-- The words are a sentence without a day, whose second account id is the keyword in front of a
day, and one more word, which is taken for the day. -/
def SharesWord (words : List String) (i : Instruction Number String) : Prop :=
  ∃ body last, words = body ++ [last] ∧
    List.Forall₂ (Role.FilledBy i) (undatedForm i.kind) body ∧
    Text.upper (wordAt body 10) = "ON" ∧ i.date = some last

/-! ## Lengths -/

lemma length_undatedForm (kind : Kind) : (undatedForm kind).length = 11 := by
  cases kind <;> rfl

/-- A sentence of a form has eleven words without a day and thirteen with one. -/
lemma Says.length {words : List String} {i : Instruction Number String} (h : Says words i) :
    words.length = if i.date.isSome then 13 else 11 := by
  rw [← h.length_eq, List.length_append, length_undatedForm]
  cases i.date <;> rfl

lemma SharesWord.length {words : List String} {i : Instruction Number String}
    (h : SharesWord words i) : words.length = 12 := by
  obtain ⟨body, last, rfl, hbody, _⟩ := h
  rw [List.length_append, ← hbody.length_eq, length_undatedForm]
  rfl

/-! ## What the parser accepts -/

lemma forall₂_undatedForm_iff {i : Instruction Number String}
    {w₀ w₁ w₂ w₃ w₄ w₅ w₆ w₇ w₈ w₉ w₁₀ : String} :
    List.Forall₂ (Role.FilledBy i) (undatedForm i.kind)
        [w₀, w₁, w₂, w₃, w₄, w₅, w₆, w₇, w₈, w₉, w₁₀] ↔
      Text.upper w₀ = i.kind.keyword ∧ isPhrase (firstPhrase i.kind) [w₃, w₄] = true ∧
        isPhrase (secondPhrase i.kind) [w₆, w₇, w₈, w₉] = true ∧
        i = assemble i.kind w₁ w₂ w₅ w₁₀ i.date := by
  obtain ⟨kind, amount, currency, debit, credit, date⟩ := i
  cases kind with
  | debit =>
    simp only [isPhrase_iff, undatedForm, List.forall₂_cons, List.forall₂_nil_left_iff,
      Role.FilledBy, firstPhrase, secondPhrase, Kind.keyword, assemble, List.map_cons,
      List.map_nil, List.cons.injEq, Instruction.mk.injEq, true_and, and_true]
    constructor
    · rintro ⟨h₀, hamount, hcurrency, h₃, h₄, hdebit, h₆, h₇, h₈, h₉, hcredit⟩
      exact ⟨h₀, ⟨h₃, h₄⟩, ⟨h₆, h₇, h₈, h₉⟩, hamount, hcurrency, hdebit, hcredit⟩
    · rintro ⟨h₀, ⟨h₃, h₄⟩, ⟨h₆, h₇, h₈, h₉⟩, hamount, hcurrency, hdebit, hcredit⟩
      exact ⟨h₀, hamount, hcurrency, h₃, h₄, hdebit, h₆, h₇, h₈, h₉, hcredit⟩
  | credit =>
    simp only [isPhrase_iff, undatedForm, List.forall₂_cons, List.forall₂_nil_left_iff,
      Role.FilledBy, firstPhrase, secondPhrase, Kind.keyword, assemble, List.map_cons,
      List.map_nil, List.cons.injEq, Instruction.mk.injEq, true_and, and_true]
    constructor
    · rintro ⟨h₀, hamount, hcurrency, h₃, h₄, hcredit, h₆, h₇, h₈, h₉, hdebit⟩
      exact ⟨h₀, ⟨h₃, h₄⟩, ⟨h₆, h₇, h₈, h₉⟩, hamount, hcurrency, hdebit, hcredit⟩
    · rintro ⟨h₀, ⟨h₃, h₄⟩, ⟨h₆, h₇, h₈, h₉⟩, hamount, hcurrency, hdebit, hcredit⟩
      exact ⟨h₀, hamount, hcurrency, h₃, h₄, hcredit, h₆, h₇, h₈, h₉, hdebit⟩

lemma isPhrase_dateKeyword {word : String} :
    isPhrase [dateKeyword] [word] = true ↔ Text.upper word = "ON" := by
  rw [isPhrase_iff]
  exact List.singleton_inj

lemma forall₂_dateForm_pair {i : Instruction Number String} {keyword last : String} :
    List.Forall₂ (Role.FilledBy i) (dateForm i.date) [keyword, last] ↔
      Text.upper keyword = "ON" ∧ i.date = some last := by
  cases hdate : i.date with
  | none => simp [dateForm]
  | some day => simp [dateForm, Role.FilledBy, hdate]

/-- The words after the second account id are the day of a form, or they are one word after an id
that is the keyword. -/
lemma readDate_eq_ok_iff {i : Instruction Number String} {second : String} {rest : List String}
    (hrest : rest.length ≤ 2) :
    readDate second rest = .ok i.date ↔
      List.Forall₂ (Role.FilledBy i) (dateForm i.date) rest ∨
        ∃ last, rest = [last] ∧ Text.upper second = "ON" ∧ i.date = some last := by
  match rest, hrest with
  | [], _ =>
    cases hdate : i.date <;> simp [readDate, dateForm]
  | [last], _ =>
    have hlength : ¬ List.Forall₂ (Role.FilledBy i) (dateForm i.date) [last] := fun h => by
      have hone := h.length_eq
      cases hdate : i.date <;> simp [dateForm, hdate] at hone
    rw [readDate]
    by_cases h : Text.upper second = "ON"
    · rw [if_pos (isPhrase_dateKeyword.mpr h)]
      simp [hlength, h, eq_comm]
    · rw [if_neg (mt isPhrase_dateKeyword.mp h)]
      simp [hlength, h]
  | [keyword, last], _ =>
    rw [readDate, forall₂_dateForm_pair]
    by_cases h : Text.upper keyword = "ON"
    · rw [if_pos (isPhrase_dateKeyword.mpr h)]
      simp [h, eq_comm]
    · rw [if_neg (mt isPhrase_dateKeyword.mp h)]
      simp [h]

lemma parse_append_eq_ok_iff {i : Instruction Number String} {body rest : List String}
    (hbody : body.length = leastWords) (hrest : rest.length ≤ 2) :
    parse (body ++ rest) = .ok i ↔
      List.Forall₂ (Role.FilledBy i) (undatedForm i.kind) body ∧
        readDate (wordAt body 10) rest = .ok i.date := by
  obtain ⟨w₀, w₁, w₂, w₃, w₄, w₅, w₆, w₇, w₈, w₉, w₁₀, nothing, hwords⟩ :=
    exists_eleven (Nat.le_of_eq hbody.symm)
  have hnothing : nothing = [] := by
    rw [hwords] at hbody
    simpa [leastWords] using hbody
  subst hwords hnothing
  have hlength : ¬ (([w₀, w₁, w₂, w₃, w₄, w₅, w₆, w₇, w₈, w₉, w₁₀] ++ rest).length < leastWords ∨
      mostWords < ([w₀, w₁, w₂, w₃, w₄, w₅, w₆, w₇, w₈, w₉, w₁₀] ++ rest).length) := by
    simp only [List.length_append, List.length_cons, List.length_nil, leastWords, mostWords]
    omega
  have hwords : [w₀, w₁, w₂, w₃, w₄, w₅, w₆, w₇, w₈, w₉, w₁₀] ++ rest =
      w₀ :: w₁ :: w₂ :: w₃ :: w₄ :: w₅ :: w₆ :: w₇ :: w₈ :: w₉ :: w₁₀ :: rest := rfl
  have hlast : wordAt [w₀, w₁, w₂, w₃, w₄, w₅, w₆, w₇, w₈, w₉, w₁₀] 10 = w₁₀ := rfl
  rw [parse_eleven hwords hlength, forall₂_undatedForm_iff, hlast, ← ofKeyword?_eq_some_iff]
  constructor
  · intro h
    cases hkind : Kind.ofKeyword? (Text.upper w₀) with
    | none =>
      rw [hkind] at h
      cases h
    | some kind =>
      rw [hkind] at h
      dsimp only at h
      split at h
      · cases h
      next hfirst =>
      split at h
      · cases h
      next hsecond =>
      cases hdate : readDate w₁₀ rest with
      | error r =>
        rw [hdate] at h
        cases h
      | ok date =>
        rw [hdate] at h
        obtain rfl := Except.ok.inj h
        simp only [Bool.not_eq_true', Bool.not_eq_false] at hfirst hsecond
        exact ⟨⟨rfl, hfirst, hsecond, rfl⟩, rfl⟩
  · rintro ⟨⟨hkind, hfirst, hsecond, hi⟩, hdate⟩
    rw [hkind]
    dsimp only
    rw [hfirst, hsecond, hdate]
    exact congrArg Except.ok hi.symm

lemma says_append_iff {i : Instruction Number String} {body rest : List String}
    (hbody : body.length = leastWords) :
    Says (body ++ rest) i ↔
      List.Forall₂ (Role.FilledBy i) (undatedForm i.kind) body ∧
        List.Forall₂ (Role.FilledBy i) (dateForm i.date) rest := by
  have hform : (undatedForm i.kind).length = body.length := by
    rw [length_undatedForm, hbody, leastWords]
  constructor
  · intro h
    have hfront := List.forall₂_take_append _ _ _ h
    have hback := List.forall₂_drop_append _ _ _ h
    rw [← hform, List.take_left] at hfront
    rw [← hform, List.drop_left] at hback
    exact ⟨hfront, hback⟩
  · rintro ⟨hfront, hback⟩
    exact List.rel_append hfront hback

lemma sharesWord_append_iff {i : Instruction Number String} {body rest : List String}
    (hbody : body.length = leastWords) :
    SharesWord (body ++ rest) i ↔
      List.Forall₂ (Role.FilledBy i) (undatedForm i.kind) body ∧
        ∃ last, rest = [last] ∧ Text.upper (wordAt body 10) = "ON" ∧ i.date = some last := by
  constructor
  · rintro ⟨body', last, heq, hform, hkeyword, hdate⟩
    have hlength : body.length = body'.length := by
      rw [hbody, ← hform.length_eq, length_undatedForm, leastWords]
    obtain ⟨rfl, rfl⟩ := List.append_inj heq hlength
    exact ⟨hform, last, rfl, hkeyword, hdate⟩
  · rintro ⟨hform, last, rfl, hkeyword, hdate⟩
    exact ⟨body, last, rfl, hform, hkeyword, hdate⟩

/-- The parser accepts the sentences of the forms and the lists in which a word is shared. -/
lemma parse_eq_ok_iff_says {words : List String} {i : Instruction Number String} :
    parse words = .ok i ↔ Says words i ∨ SharesWord words i := by
  by_cases hlength : words.length < leastWords ∨ mostWords < words.length
  · have hparse : parse words = .error (.malformed words.length) := by
      rw [parse_eq, if_pos hlength]
    rw [hparse]
    constructor
    · intro h
      cases h
    · rintro (hform | hshares)
      · rw [hform.length] at hlength
        cases hdate : i.date <;> simp [hdate, leastWords, mostWords] at hlength
      · rw [hshares.length] at hlength
        simp [leastWords, mostWords] at hlength
  · simp only [leastWords, mostWords] at hlength
    have hbody : (words.take 11).length = leastWords := by
      rw [List.length_take, leastWords]
      omega
    have hrest : (words.drop 11).length ≤ 2 := by
      rw [List.length_drop]
      omega
    rw [← List.take_append_drop 11 words, parse_append_eq_ok_iff hbody hrest,
      says_append_iff hbody, sharesWord_append_iff hbody, readDate_eq_ok_iff hrest]
    exact and_or_left

/-- The parser reads the sentences of the four forms, every word in one role, and besides them only
twelve words of which the second account id is also the keyword of the day.  For every list of words
but these, it accepts exactly the sentences of the forms. -/
theorem accepts_sentences_iff (words : List String) :
    (∀ i, parse words = .ok i ↔ Says words i ∨ SharesWord words i) ∧
      (((∃ i, parse words = .ok i) ↔ ∃ i, Says words i) ↔ ¬ ∃ i, SharesWord words i) := by
  refine ⟨fun i => parse_eq_ok_iff_says, ?_⟩
  constructor
  · rintro haccepts ⟨i, hshares⟩
    obtain ⟨j, hform⟩ := haccepts.mp ⟨i, parse_eq_ok_iff_says.mpr (.inr hshares)⟩
    have htwelve := hshares.length
    rw [hform.length] at htwelve
    split at htwelve <;> omega
  · intro hnone
    constructor
    · rintro ⟨i, hi⟩
      rcases parse_eq_ok_iff_says.mp hi with hform | hshares
      · exact ⟨i, hform⟩
      · exact absurd ⟨i, hshares⟩ hnone
    · rintro ⟨i, hform⟩
      exact ⟨i, parse_eq_ok_iff_says.mpr (.inl hform)⟩

/-- Twelve words, none of them empty, that the parser accepts although they are no sentence. -/
theorem accepts_twelve_words :
    (∀ w ∈ ["DEBIT", "5", "USD", "FROM", "ACCOUNT", "a", "FOR", "CREDIT", "TO", "ACCOUNT", "ON",
      "2030-01-01"], w ≠ "") ∧
    (∃ i, parse ["DEBIT", "5", "USD", "FROM", "ACCOUNT", "a", "FOR", "CREDIT", "TO", "ACCOUNT",
      "ON", "2030-01-01"] = .ok i) ∧
    ¬ ∃ i, Says ["DEBIT", "5", "USD", "FROM", "ACCOUNT", "a", "FOR", "CREDIT", "TO", "ACCOUNT",
      "ON", "2030-01-01"] i := by
  refine ⟨by decide, ⟨⟨.debit, .whole 5, "USD", "a", "ON", some "2030-01-01"⟩, ?_⟩, ?_⟩
  · decide +kernel
  · rintro ⟨i, hform⟩
    have hlength := hform.length
    cases hdate : i.date <;> simp [hdate] at hlength

end Remittance.Sentence
