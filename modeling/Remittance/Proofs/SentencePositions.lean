import Mathlib.Data.List.GetD
import Mathlib.Tactic.Common
import Remittance.Instruction.Sentence

/-!
# Sentences by position

`Sentence.parse` takes a list of words apart from the front.  This module says the same by
positions: `firstMissing?` is the first keyword phrase that is not in its place, `reading` is what
the words say if all phrases are, and `parse_eq` ties them to the parser.

The only position that is counted from the back is that of the keyword in front of a day.  In a
sentence of twelve words it falls on the second account id.
-/

namespace Remittance.Sentence

/-! ## Words and phrases at positions -/

/-- The word at a position, the empty text beyond the end. -/
def wordAt (words : List String) (position : Nat) : String :=
  words.getD position ""

/-- The phrase stands at a position, in any letter case. -/
def StandsAt (phrase words : List String) (position : Nat) : Prop :=
  ((words.drop position).take phrase.length).map Text.upper = phrase

instance (phrase words : List String) (position : Nat) :
    Decidable (StandsAt phrase words position) :=
  inferInstanceAs
    (Decidable (((words.drop position).take phrase.length).map Text.upper = phrase))

/-- The kind that the first word names.  Words that name no kind count as one of `DEBIT`. -/
def kindOf (words : List String) : Kind :=
  if Text.upper (wordAt words 0) = Kind.credit.keyword then .credit else .debit

/-- Every keyword phrase is in its place. -/
structure KeywordsInPlace (words : List String) : Prop where
  leading : Text.upper (wordAt words 0) = (kindOf words).keyword
  first : StandsAt (firstPhrase (kindOf words)) words 3
  second : StandsAt (secondPhrase (kindOf words)) words 6
  date : leastWords < words.length → StandsAt [dateKeyword] words (words.length - 2)

/-- The first phrase that is not in its place. -/
def firstMissing? (words : List String) : Option String :=
  if Text.upper (wordAt words 0) ≠ (kindOf words).keyword then some leadingPhrase
  else if ¬ StandsAt (firstPhrase (kindOf words)) words 3 then
    some (" ".intercalate (firstPhrase (kindOf words)))
  else if ¬ StandsAt (secondPhrase (kindOf words)) words 6 then
    some (" ".intercalate (secondPhrase (kindOf words)))
  else if leastWords < words.length ∧ ¬ StandsAt [dateKeyword] words (words.length - 2) then
    some dateKeyword
  else none

/-- What words say, each at its position. -/
def reading (words : List String) : Instruction Number String where
  kind := kindOf words
  amount := Number.capture (wordAt words 1)
  currency := Text.upper (wordAt words 2)
  debit := wordAt words (match kindOf words with | .debit => 5 | .credit => 10)
  credit := wordAt words (match kindOf words with | .debit => 10 | .credit => 5)
  date := if leastWords < words.length then some (wordAt words (words.length - 1)) else none

lemma amount_reading (words : List String) :
    (reading words).amount = Number.capture (wordAt words 1) := by
  simp only [reading]

lemma currency_reading (words : List String) :
    (reading words).currency = Text.upper (wordAt words 2) := by
  simp only [reading]

lemma firstMissing?_eq_none_iff {words : List String} :
    firstMissing? words = none ↔ KeywordsInPlace words := by
  unfold firstMissing?
  constructor
  · intro h
    split at h
    · cases h
    next hleading =>
    split at h
    · cases h
    next hfirst =>
    split at h
    · cases h
    next hsecond =>
    split at h
    · cases h
    next hdate =>
    exact ⟨not_not.mp hleading, not_not.mp hfirst, not_not.mp hsecond,
      fun hlong => by_contra fun hmissing => hdate ⟨hlong, hmissing⟩⟩
  · rintro ⟨hleading, hfirst, hsecond, hdate⟩
    rw [if_neg (not_not.mpr hleading), if_neg (not_not.mpr hfirst), if_neg (not_not.mpr hsecond),
      if_neg fun h => h.2 (hdate h.1)]

/-! ## Words that are followed by more -/

section Append

variable {words : List String} {position : Nat}

lemma wordAt_append (h : position < words.length) (more : List String) :
    wordAt (words ++ more) position = wordAt words position :=
  List.getD_append words more "" position h

lemma standsAt_append {phrase : List String} (h : position + phrase.length ≤ words.length)
    (more : List String) :
    StandsAt phrase (words ++ more) position ↔ StandsAt phrase words position := by
  have hdrop : phrase.length ≤ (words.drop position).length := by
    rw [List.length_drop]
    omega
  rw [StandsAt, StandsAt, List.drop_append_of_le_length (by omega),
    List.take_append_of_le_length hdrop]

lemma kindOf_append (h : 0 < words.length) (more : List String) :
    kindOf (words ++ more) = kindOf words := by
  rw [kindOf, kindOf, wordAt_append h]

end Append

/-! ## The parser by positions -/

lemma ofKeyword?_eq_some_iff {word : String} {kind : Kind} :
    Kind.ofKeyword? word = some kind ↔ word = kind.keyword := by
  unfold Kind.ofKeyword?
  constructor
  · intro h
    split at h
    · next hdebit => cases h; exact hdebit
    · split at h
      · next hcredit => cases h; exact hcredit
      · cases h
  · rintro rfl
    cases kind <;> decide

lemma kindOf_eq {words : List String} {kind : Kind}
    (h : Text.upper (wordAt words 0) = kind.keyword) : kindOf words = kind := by
  rw [kindOf, h]
  cases kind <;> decide

/-- A long enough list of words has eleven words that can be told apart. -/
lemma exists_eleven {words : List String} (h : leastWords ≤ words.length) :
    ∃ w₀ w₁ w₂ w₃ w₄ w₅ w₆ w₇ w₈ w₉ w₁₀ rest,
      words = w₀ :: w₁ :: w₂ :: w₃ :: w₄ :: w₅ :: w₆ :: w₇ :: w₈ :: w₉ :: w₁₀ :: rest := by
  rcases words with _ | ⟨w₀, _ | ⟨w₁, _ | ⟨w₂, _ | ⟨w₃, _ | ⟨w₄, _ | ⟨w₅, _ | ⟨w₆, _ | ⟨w₇,
    _ | ⟨w₈, _ | ⟨w₉, _ | ⟨w₁₀, rest⟩⟩⟩⟩⟩⟩⟩⟩⟩⟩⟩
  case cons.cons.cons.cons.cons.cons.cons.cons.cons.cons.cons =>
    exact ⟨w₀, w₁, w₂, w₃, w₄, w₅, w₆, w₇, w₈, w₉, w₁₀, rest, rfl⟩
  all_goals exact absurd h (by simp [leastWords])

lemma isPhrase_iff {phrase words : List String} :
    isPhrase phrase words = true ↔ words.map Text.upper = phrase := by
  rw [isPhrase, beq_iff_eq]

lemma length_reading_date {words : List String} {last : String}
    (hlong : leastWords < words.length) (hlast : wordAt words (words.length - 1) = last) :
    (reading words).date = some last := by
  rw [reading, if_pos hlong, hlast]

/-- The day of a sentence by positions.  With one word after the second account id, the position of
the keyword is that of the id. -/
lemma readDate_eq {words rest : List String} {w₀ w₁ w₂ w₃ w₄ w₅ w₆ w₇ w₈ w₉ w₁₀ : String}
    (hwords : words = w₀ :: w₁ :: w₂ :: w₃ :: w₄ :: w₅ :: w₆ :: w₇ :: w₈ :: w₉ :: w₁₀ :: rest)
    (hmost : words.length ≤ mostWords) :
    readDate w₁₀ rest =
      if leastWords < words.length ∧ ¬ StandsAt [dateKeyword] words (words.length - 2) then
        .error (.missingKeyword dateKeyword)
      else .ok (reading words).date := by
  have hmissing : missing [dateKeyword] = .missingKeyword dateKeyword := rfl
  match rest, hwords with
  | [], hwords =>
    subst hwords
    rfl
  | [last], hwords =>
    have hlength : words.length = 12 := by rw [hwords]; rfl
    have hphrase : isPhrase [dateKeyword] [w₁₀] = true ↔ StandsAt [dateKeyword] words 10 := by
      rw [hwords]
      exact isPhrase_iff
    have hdate : (reading words).date = some last :=
      length_reading_date (by rw [hlength]; decide) (by rw [hwords]; rfl)
    rw [readDate, hlength, hdate, hmissing]
    by_cases h : isPhrase [dateKeyword] [w₁₀] = true
    · rw [if_pos h, if_neg fun hcond => hcond.2 (hphrase.mp h)]
    · rw [if_neg h, if_pos ⟨by decide, mt hphrase.mpr h⟩]
  | [keyword, last], hwords =>
    have hlength : words.length = 13 := by rw [hwords]; rfl
    have hphrase : isPhrase [dateKeyword] [keyword] = true ↔ StandsAt [dateKeyword] words 11 := by
      rw [hwords]
      exact isPhrase_iff
    have hdate : (reading words).date = some last :=
      length_reading_date (by rw [hlength]; decide) (by rw [hwords]; rfl)
    rw [readDate, hlength, hdate, hmissing]
    by_cases h : isPhrase [dateKeyword] [keyword] = true
    · rw [if_pos h, if_neg fun hcond => hcond.2 (hphrase.mp h)]
    · rw [if_neg h, if_pos ⟨by decide, mt hphrase.mpr h⟩]
  | _ :: _ :: _ :: _, hwords =>
    rw [hwords] at hmost
    simp only [List.length_cons, mostWords] at hmost
    omega

lemma reading_eq_assemble {words : List String} {kind : Kind} (hkind : kindOf words = kind) :
    reading words = assemble kind (wordAt words 1) (wordAt words 2) (wordAt words 5)
      (wordAt words 10) (reading words).date := by
  subst hkind
  unfold reading assemble
  cases kindOf words <;> rfl

/-- The parser on a list of words whose number is in range. -/
lemma parse_eleven {words rest : List String} {w₀ w₁ w₂ w₃ w₄ w₅ w₆ w₇ w₈ w₉ w₁₀ : String}
    (hwords : words = w₀ :: w₁ :: w₂ :: w₃ :: w₄ :: w₅ :: w₆ :: w₇ :: w₈ :: w₉ :: w₁₀ :: rest)
    (hlength : ¬ (words.length < leastWords ∨ mostWords < words.length)) :
    parse words =
      match Kind.ofKeyword? (Text.upper w₀) with
      | none => .error (.missingKeyword leadingPhrase)
      | some kind =>
        if !isPhrase (firstPhrase kind) [w₃, w₄] then .error (missing (firstPhrase kind))
        else if !isPhrase (secondPhrase kind) [w₆, w₇, w₈, w₉] then
          .error (missing (secondPhrase kind))
        else readDate w₁₀ rest >>= fun date => .ok (assemble kind w₁ w₂ w₅ w₁₀ date) := by
  subst hwords
  exact if_neg hlength

/-- The parser by positions: too few or too many words are malformed, then the first phrase that is
not in its place is reported, and otherwise every word is read where it stands. -/
theorem parse_eq (words : List String) :
    parse words =
      if words.length < leastWords ∨ mostWords < words.length then
        .error (.malformed words.length)
      else
        match firstMissing? words with
        | some phrase => .error (.missingKeyword phrase)
        | none => .ok (reading words) := by
  by_cases hlength : words.length < leastWords ∨ mostWords < words.length
  · unfold parse
    rw [if_pos hlength, if_pos hlength]
  obtain ⟨hleast, hmost⟩ := not_or.mp hlength
  obtain ⟨w₀, w₁, w₂, w₃, w₄, w₅, w₆, w₇, w₈, w₉, w₁₀, rest, hwords⟩ :=
    exists_eleven (Nat.le_of_not_lt hleast)
  have hleading : wordAt words 0 = w₀ := by rw [hwords]; rfl
  rw [if_neg hlength, parse_eleven hwords hlength, firstMissing?, hleading,
    readDate_eq hwords (Nat.le_of_not_lt hmost)]
  cases hkind : Kind.ofKeyword? (Text.upper w₀) with
  | none =>
    have hunknown : Text.upper w₀ ≠ (kindOf words).keyword := fun h => by
      rw [ofKeyword?_eq_some_iff.mpr h] at hkind
      cases hkind
    rw [if_pos hunknown]
  | some kind =>
    have hkeyword := ofKeyword?_eq_some_iff.mp hkind
    have hkindOf : kindOf words = kind := kindOf_eq (by rw [hleading, hkeyword])
    have hfirst : isPhrase (firstPhrase kind) [w₃, w₄] = true ↔
        StandsAt (firstPhrase kind) words 3 := by
      rw [isPhrase_iff, hwords]
      cases kind <;> exact Iff.rfl
    have hsecond : isPhrase (secondPhrase kind) [w₆, w₇, w₈, w₉] = true ↔
        StandsAt (secondPhrase kind) words 6 := by
      rw [isPhrase_iff, hwords]
      cases kind <;> exact Iff.rfl
    have hreading : reading words = assemble kind w₁ w₂ w₅ w₁₀ (reading words).date := by
      have h := reading_eq_assemble hkindOf
      rw [h, hwords]
      rfl
    rw [hkindOf, if_neg (not_not.mpr hkeyword)]
    simp only [Bool.not_eq_true', ← Bool.not_eq_true, hfirst, hsecond]
    split
    · rfl
    split
    · rfl
    split
    · rfl
    · rw [hreading]
      rfl

end Remittance.Sentence
