import Remittance.Proofs.Conversions
import Remittance.Proofs.SentencePositions

/-!
# The verdict on a list of words

`Sentence.Verdict words` lists all that can become of a list of words: it has too few or too many of
them, one of four keyword phrases is the first that is not in its place, or an instruction is read.
Every case after the first has the words that are looked at as words of the list, so that a list
which lacked one of them would have no verdict at all.

`parse_verdict` says that the parser gives the verdict and nothing else.  The words may be any texts,
the empty one included, and their upper-case forms may be longer than they are.
-/

namespace Remittance.Sentence

/-! ## Words at positions -/

/-- The words of a list from a position on are the phrase, in any letter case. -/
def PhraseAt (words : List String) (position : Nat) (phrase : List String) : Prop :=
  ∃ found, found <+: words.drop position ∧ found.map Text.upper = phrase

/-- The list has as many words from a position on as the phrase, and they are another one. -/
def OtherAt (words : List String) (position : Nat) (phrase : List String) : Prop :=
  ∃ found, found <+: words.drop position ∧ found.length = phrase.length ∧
    found.map Text.upper ≠ phrase

/-- The number of words is one that a sentence may have. -/
def HasLength (words : List String) : Prop :=
  leastWords ≤ words.length ∧ words.length ≤ mostWords

/-- The position of the debit account id. -/
def debitPosition : Kind → Nat
  | .debit => 5
  | .credit => 10

/-- The position of the credit account id. -/
def creditPosition : Kind → Nat
  | .debit => 10
  | .credit => 5

/-- The day that a list of words ends with: none for the least number of words, and otherwise the
last word, if the keyword is in front of it. -/
inductive EndsWith (words : List String) : Option String → Prop
  | nothing (hlength : words.length = leastWords) : EndsWith words none
  | day {date : String} (hlength : leastWords < words.length)
    (hkeyword : PhraseAt words (words.length - 2) [dateKeyword])
    (hdate : words.getLast? = some date) : EndsWith words (some date)

/-- All that can become of a list of words. -/
inductive Verdict (words : List String) : Except Rejection (Instruction Number String) → Prop
  | malformed (hlength : words.length < leastWords ∨ mostWords < words.length) :
    Verdict words (.error (.malformed words.length))
  | noKind {leading : String} (hlength : HasLength words) (hleading : words[0]? = some leading)
    (hunknown : ∀ kind : Kind, Text.upper leading ≠ kind.keyword) :
    Verdict words (.error (.missingKeyword leadingPhrase))
  | noFirst {kind : Kind} (hlength : HasLength words)
    (hleading : PhraseAt words 0 [kind.keyword]) (hother : OtherAt words 3 (firstPhrase kind)) :
    Verdict words (.error (missing (firstPhrase kind)))
  | noSecond {kind : Kind} (hlength : HasLength words)
    (hleading : PhraseAt words 0 [kind.keyword]) (hfirst : PhraseAt words 3 (firstPhrase kind))
    (hother : OtherAt words 6 (secondPhrase kind)) :
    Verdict words (.error (missing (secondPhrase kind)))
  | noDate {kind : Kind} (hlength : HasLength words) (hlong : leastWords < words.length)
    (hleading : PhraseAt words 0 [kind.keyword]) (hfirst : PhraseAt words 3 (firstPhrase kind))
    (hsecond : PhraseAt words 6 (secondPhrase kind))
    (hother : OtherAt words (words.length - 2) [dateKeyword]) :
    Verdict words (.error (missing [dateKeyword]))
  | accepted {kind : Kind} {amount currency debit credit : String} {date : Option String}
    (hlength : HasLength words)
    (hleading : PhraseAt words 0 [kind.keyword]) (hfirst : PhraseAt words 3 (firstPhrase kind))
    (hsecond : PhraseAt words 6 (secondPhrase kind)) (hamount : words[1]? = some amount)
    (hcurrency : words[2]? = some currency) (hdebit : words[debitPosition kind]? = some debit)
    (hcredit : words[creditPosition kind]? = some credit) (hdate : EndsWith words date) :
    Verdict words
      (.ok ⟨kind, Number.capture amount, Text.upper currency, debit, credit, date⟩)

section Positions

variable {words phrase : List String} {position : Nat}

lemma phraseAt_iff_standsAt : PhraseAt words position phrase ↔ StandsAt phrase words position := by
  constructor
  · rintro ⟨found, hfound, hphrase⟩
    have hlength : found.length = phrase.length := by rw [← hphrase, List.length_map]
    rw [StandsAt, ← hlength, ← List.prefix_iff_eq_take.mp hfound, hphrase]
  · intro h
    exact ⟨_, List.take_prefix _ _, h⟩

lemma OtherAt.not_standsAt (h : OtherAt words position phrase) :
    ¬ StandsAt phrase words position := by
  obtain ⟨found, hfound, hlength, hother⟩ := h
  rwa [StandsAt, ← hlength, ← List.prefix_iff_eq_take.mp hfound]

/-- Where the list has enough words, they are the phrase or another one. -/
lemma otherAt_of_not_standsAt (hother : ¬ StandsAt phrase words position)
    (h : position + phrase.length ≤ words.length) : OtherAt words position phrase := by
  refine ⟨_, List.take_prefix phrase.length _, ?_, hother⟩
  rw [List.length_take, List.length_drop]
  omega

lemma getElem?_eq_wordAt (h : position < words.length) :
    words[position]? = some (wordAt words position) := by
  simp [wordAt, List.getD, h]

lemma wordAt_eq {word : String} (h : words[position]? = some word) :
    wordAt words position = word := by
  simp [wordAt, List.getD, h]

lemma phraseAt_singleton_iff {word : String} (h : position < words.length) :
    PhraseAt words position [word] ↔ Text.upper (wordAt words position) = word := by
  have htake : (words.drop position).take 1 = [wordAt words position] := by
    rw [List.drop_eq_getElem_cons h, List.take_succ_cons, List.take_zero, wordAt,
      List.getD_eq_getElem words "" h]
  rw [phraseAt_iff_standsAt, StandsAt, List.length_singleton, htake]
  exact List.singleton_inj

end Positions

/-! ## The parser and the verdict -/

section Missing

variable {words : List String} {kind : Kind}

lemma firstMissing?_of_leading (hleading : ∀ kind : Kind, Text.upper (wordAt words 0) ≠ kind.keyword) :
    firstMissing? words = some leadingPhrase :=
  if_pos (hleading (kindOf words))

lemma firstMissing?_of_first (hleading : Text.upper (wordAt words 0) = kind.keyword)
    (hfirst : ¬ StandsAt (firstPhrase kind) words 3) :
    firstMissing? words = some (" ".intercalate (firstPhrase kind)) := by
  rw [firstMissing?, kindOf_eq hleading, if_neg (not_not.mpr hleading), if_pos hfirst]

lemma firstMissing?_of_second (hleading : Text.upper (wordAt words 0) = kind.keyword)
    (hfirst : StandsAt (firstPhrase kind) words 3)
    (hsecond : ¬ StandsAt (secondPhrase kind) words 6) :
    firstMissing? words = some (" ".intercalate (secondPhrase kind)) := by
  rw [firstMissing?, kindOf_eq hleading, if_neg (not_not.mpr hleading),
    if_neg (not_not.mpr hfirst), if_pos hsecond]

lemma firstMissing?_of_date (hleading : Text.upper (wordAt words 0) = kind.keyword)
    (hfirst : StandsAt (firstPhrase kind) words 3) (hsecond : StandsAt (secondPhrase kind) words 6)
    (hlong : leastWords < words.length)
    (hdate : ¬ StandsAt [dateKeyword] words (words.length - 2)) :
    firstMissing? words = some dateKeyword := by
  rw [firstMissing?, kindOf_eq hleading, if_neg (not_not.mpr hleading),
    if_neg (not_not.mpr hfirst), if_neg (not_not.mpr hsecond), if_pos ⟨hlong, hdate⟩]

end Missing

section Verdict

variable {words : List String}

lemma length_firstPhrase (kind : Kind) : (firstPhrase kind).length = 2 := by
  cases kind <;> rfl

lemma length_secondPhrase (kind : Kind) : (secondPhrase kind).length = 4 := by
  cases kind <;> rfl

lemma position_lt (hlength : HasLength words) (kind : Kind) :
    debitPosition kind < words.length ∧ creditPosition kind < words.length := by
  have hleast : 11 ≤ words.length := hlength.1
  cases kind <;> simp only [debitPosition, creditPosition] <;> omega

/-- The parser on a list that has the right length. -/
lemma HasLength.parse_eq (hlength : HasLength words) :
    parse words =
      match firstMissing? words with
      | some phrase => .error (.missingKeyword phrase)
      | none => .ok (reading words) := by
  have hinside : ¬(words.length < leastWords ∨ mostWords < words.length) := by
    simp only [HasLength] at hlength
    omega
  rw [Sentence.parse_eq]
  generalize firstMissing? words = phrase?
  exact if_neg hinside

lemma reading_eq {kind : Kind} (hkind : kindOf words = kind) :
    reading words =
      ⟨kind, Number.capture (wordAt words 1), Text.upper (wordAt words 2),
        wordAt words (debitPosition kind), wordAt words (creditPosition kind),
        (reading words).date⟩ := by
  subst hkind
  simp only [reading]
  generalize kindOf words = kind
  cases kind <;> rfl

lemma endsWith_iff (hlength : HasLength words) {date : Option String} :
    EndsWith words date ↔ (reading words).date = date ∧
      (leastWords < words.length → StandsAt [dateKeyword] words (words.length - 2)) := by
  have hleast : 11 ≤ words.length := hlength.1
  have hlast : words.getLast? = some (wordAt words (words.length - 1)) := by
    rw [List.getLast?_eq_getElem?, getElem?_eq_wordAt (by omega)]
  constructor
  · intro h
    cases h with
    | nothing heq => simp [reading, heq]
    | @day date hlong hkeyword hdate =>
      have hword : wordAt words (words.length - 1) = date := Option.some.inj (hlast.symm.trans hdate)
      exact ⟨length_reading_date hlong hword, fun _ => phraseAt_iff_standsAt.mp hkeyword⟩
  · rintro ⟨rfl, hkeyword⟩
    by_cases hlong : leastWords < words.length
    · rw [length_reading_date hlong rfl]
      exact .day hlong (phraseAt_iff_standsAt.mpr (hkeyword hlong)) hlast
    · rw [reading, if_neg hlong]
      exact .nothing (le_antisymm (not_lt.mp hlong) hlength.1)

/-- If all phrases are in their places, the words are those that are read. -/
lemma verdict_reading (hlength : HasLength words) (hplaces : KeywordsInPlace words) :
    Verdict words (.ok (reading words)) := by
  have hleast : 11 ≤ words.length := hlength.1
  have hdate : EndsWith words (reading words).date :=
    (endsWith_iff hlength).mpr ⟨rfl, hplaces.date⟩
  obtain ⟨hdebit, hcredit⟩ := position_lt hlength (kindOf words)
  rw [reading_eq rfl]
  exact .accepted hlength ((phraseAt_singleton_iff (by omega)).mpr hplaces.leading)
    (phraseAt_iff_standsAt.mpr hplaces.first) (phraseAt_iff_standsAt.mpr hplaces.second)
    (getElem?_eq_wordAt (by omega)) (getElem?_eq_wordAt (by omega))
    (getElem?_eq_wordAt hdebit) (getElem?_eq_wordAt hcredit) hdate

/-- Every list of words has a verdict, and the parser gives it. -/
lemma verdict_parse (words : List String) : Verdict words (parse words) := by
  by_cases houtside : words.length < leastWords ∨ mostWords < words.length
  · rw [parse_eq, if_pos houtside]
    exact .malformed houtside
  have hlength : HasLength words := by
    simp only [HasLength]
    omega
  have hleast : 11 ≤ words.length := hlength.1
  rw [hlength.parse_eq]
  by_cases hunknown : ∀ kind : Kind, Text.upper (wordAt words 0) ≠ kind.keyword
  · rw [firstMissing?_of_leading hunknown]
    exact .noKind hlength (getElem?_eq_wordAt (by omega)) hunknown
  obtain ⟨kind, hkeyword⟩ : ∃ kind : Kind, Text.upper (wordAt words 0) = kind.keyword := by
    simpa using hunknown
  have hleading : PhraseAt words 0 [kind.keyword] :=
    (phraseAt_singleton_iff (by omega)).mpr hkeyword
  by_cases hfirst : StandsAt (firstPhrase kind) words 3
  swap
  · rw [firstMissing?_of_first hkeyword hfirst]
    exact .noFirst hlength hleading
      (otherAt_of_not_standsAt hfirst (by rw [length_firstPhrase]; omega))
  by_cases hsecond : StandsAt (secondPhrase kind) words 6
  swap
  · rw [firstMissing?_of_second hkeyword hfirst hsecond]
    exact .noSecond hlength hleading (phraseAt_iff_standsAt.mpr hfirst)
      (otherAt_of_not_standsAt hsecond (by rw [length_secondPhrase]; omega))
  by_cases hdate : leastWords < words.length → StandsAt [dateKeyword] words (words.length - 2)
  · have hplaces : KeywordsInPlace words := by
      refine ⟨?_, ?_, ?_, hdate⟩ <;> rw [kindOf_eq hkeyword]
      · exact hkeyword
      · exact hfirst
      · exact hsecond
    rw [firstMissing?_eq_none_iff.mpr hplaces]
    exact verdict_reading hlength hplaces
  · obtain ⟨hlong, hother⟩ := Classical.not_imp.mp hdate
    rw [firstMissing?_of_date hkeyword hfirst hsecond hlong hother]
    exact .noDate hlength hlong hleading (phraseAt_iff_standsAt.mpr hfirst)
      (phraseAt_iff_standsAt.mpr hsecond)
      (otherAt_of_not_standsAt hother (by rw [List.length_singleton]; omega))

lemma HasLength.upper_leading (hlength : HasLength words) {kind : Kind}
    (h : PhraseAt words 0 [kind.keyword]) : Text.upper (wordAt words 0) = kind.keyword :=
  (phraseAt_singleton_iff (lt_of_lt_of_le (by decide) hlength.1)).mp h

/-- A verdict is what the parser gives. -/
lemma Verdict.parse_eq {x : Except Rejection (Instruction Number String)} (h : Verdict words x) :
    parse words = x := by
  cases h with
  | malformed houtside => rw [Sentence.parse_eq, if_pos houtside]
  | noKind hlength hleading hunknown =>
    rw [← wordAt_eq hleading] at hunknown
    rw [hlength.parse_eq, firstMissing?_of_leading hunknown]
  | noFirst hlength hleading hother =>
    rw [hlength.parse_eq,
      firstMissing?_of_first (hlength.upper_leading hleading) hother.not_standsAt]
    rfl
  | noSecond hlength hleading hfirst hother =>
    rw [hlength.parse_eq, firstMissing?_of_second (hlength.upper_leading hleading)
      (phraseAt_iff_standsAt.mp hfirst) hother.not_standsAt]
    rfl
  | noDate hlength hlong hleading hfirst hsecond hother =>
    rw [hlength.parse_eq, firstMissing?_of_date (hlength.upper_leading hleading)
      (phraseAt_iff_standsAt.mp hfirst) (phraseAt_iff_standsAt.mp hsecond) hlong
      hother.not_standsAt]
    rfl
  | accepted hlength hleading hfirst hsecond hamount hcurrency hdebit hcredit hdate =>
    have hkeyword := hlength.upper_leading hleading
    obtain ⟨hlast, hplace⟩ := (endsWith_iff hlength).mp hdate
    have hkind := kindOf_eq hkeyword
    have hplaces : KeywordsInPlace words := by
      refine ⟨?_, ?_, ?_, hplace⟩ <;> rw [hkind]
      · exact hkeyword
      · exact phraseAt_iff_standsAt.mp hfirst
      · exact phraseAt_iff_standsAt.mp hsecond
    rw [hlength.parse_eq, firstMissing?_eq_none_iff.mpr hplaces, reading_eq hkind,
      wordAt_eq hamount, wordAt_eq hcurrency, wordAt_eq hdebit, wordAt_eq hcredit, hlast]

end Verdict

/-- The parser gives exactly the verdict on a list of words, whatever the words are.  It finds fault
with the number of words if and only if that is out of range, and the word that is converted into an
amount leaves no conversion without a result. -/
theorem parse_verdict (words : List String) :
    (∀ x, parse words = x ↔ Verdict words x) ∧
      ((∃ r, parse words = .error r ∧ r.code = .malformedInstruction) ↔
        words.length < leastWords ∨ mostWords < words.length) ∧
      Number.Converts (wordAt words 1) := by
  have hverdict := verdict_parse words
  refine ⟨fun x => ⟨fun hx => hx ▸ hverdict, Verdict.parse_eq⟩, ⟨?_, ?_⟩, Number.converts _⟩
  · rintro ⟨r, hr, hcode⟩
    rw [hr] at hverdict
    cases hverdict with
    | malformed houtside => exact houtside
    | _ => cases hcode
  · intro houtside
    exact ⟨_, (Verdict.malformed houtside).parse_eq, rfl⟩

end Remittance.Sentence
