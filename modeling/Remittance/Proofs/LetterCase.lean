import Remittance.Proofs.SentenceVerdict

/-!
# Letter case

Keywords and currencies are looked at in upper case only, and every other word of a sentence is
taken as it stands.  Two lists of words that are `SameButForCase` are therefore parsed alike,
whatever comes of them (`parse_sameButForCase`): a phrase is missing from both or from neither
(`firstMissing?_congr`), and they are read as the same instruction (`reading_congr`).

Lists of twelve words are left out.  Their keyword in front of the day is looked for in the place of
the second account id, so that their last word is a day without being at the place of one.
-/

namespace Remittance.Sentence

/-! ## The phrases -/

section Congr

variable {ws vs : List String}

lemma map_upper_eq_iff :
    ws.map Text.upper = vs.map Text.upper ↔
      ∀ i : Nat, ws[i]?.map Text.upper = vs[i]?.map Text.upper := by
  rw [List.ext_getElem?_iff]
  simp only [List.getElem?_map]

/-- Where a phrase stands is seen from the upper-case forms of the words. -/
lemma standsAt_congr (h : ws.map Text.upper = vs.map Text.upper) (phrase : List String)
    (position : Nat) : StandsAt phrase ws position ↔ StandsAt phrase vs position := by
  rw [StandsAt, StandsAt, List.map_take, List.map_drop, h, List.map_take, List.map_drop]

lemma upper_wordAt_congr (h : ws.map Text.upper = vs.map Text.upper) (position : Nat) :
    Text.upper (wordAt ws position) = Text.upper (wordAt vs position) := by
  have hword : ∀ words : List String,
      Text.upper (wordAt words position) = (words.map Text.upper).getD position (Text.upper "") :=
    fun words => (List.getD_map (f := Text.upper) ..).symm
  rw [hword, hword, h]

lemma kindOf_congr (h : ws.map Text.upper = vs.map Text.upper) : kindOf ws = kindOf vs := by
  rw [kindOf, kindOf, upper_wordAt_congr h]

/-- The first phrase that is missing is seen from the upper-case forms of the words. -/
lemma firstMissing?_congr (h : ws.map Text.upper = vs.map Text.upper) :
    firstMissing? ws = firstMissing? vs := by
  have hlength : ws.length = vs.length := by simpa using congrArg List.length h
  simp only [firstMissing?, upper_wordAt_congr h, kindOf_congr h, standsAt_congr h, hlength]

end Congr

/-! ## Words that are taken as they stand -/

/-- In a list of so many words the one at the position is taken as it stands: the amount, an account
id, or the day at the end of the longest sentences. -/
def IsVerbatim (length position : Nat) : Prop :=
  position ∈ [1, 5, 10] ∨ length = mostWords ∧ position = 12

/-- The lists have the same words where words are taken as they stand, and words with the same
upper-case form everywhere else. -/
structure SameButForCase (ws vs : List String) : Prop where
  length : ws.length = vs.length
  verbatim : ∀ i : Nat, IsVerbatim ws.length i → ws[i]? = vs[i]?
  others : ∀ i : Nat, ¬ IsVerbatim ws.length i → ws[i]?.map Text.upper = vs[i]?.map Text.upper

namespace SameButForCase

variable {ws vs : List String}

lemma map_upper (h : SameButForCase ws vs) : ws.map Text.upper = vs.map Text.upper := by
  refine map_upper_eq_iff.mpr fun i => ?_
  by_cases hi : IsVerbatim ws.length i
  · rw [h.verbatim i hi]
  · exact h.others i hi

lemma wordAt_eq (h : SameButForCase ws vs) {i : Nat} (hi : IsVerbatim ws.length i) :
    wordAt ws i = wordAt vs i := by
  rw [wordAt, wordAt, List.getD_eq_getElem?_getD, List.getD_eq_getElem?_getD, h.verbatim i hi]

/-- The days of two sentences, if they give one, are the same. -/
lemma date_reading_congr (h : SameButForCase ws vs) (hlength : HasLength ws)
    (htwelve : ws.length ≠ 12) : (reading ws).date = (reading vs).date := by
  have hmost : ws.length ≤ 13 := hlength.2
  simp only [reading, ← h.length]
  by_cases hlong : leastWords < ws.length
  · have hleast : 11 < ws.length := hlong
    have hlongest : ws.length = 13 := by omega
    rw [if_pos hlong, if_pos hlong, h.wordAt_eq (.inr ⟨hlongest, by omega⟩)]
  · rw [if_neg hlong, if_neg hlong]

/-- Sentences in which every word has a place of its own are read as the same instruction. -/
lemma reading_congr (h : SameButForCase ws vs) (hlength : HasLength ws)
    (htwelve : ws.length ≠ 12) : reading ws = reading vs := by
  have hkind : kindOf vs = kindOf ws := (kindOf_congr h.map_upper).symm
  have haccount : ∀ i ∈ [5, 10], wordAt ws i = wordAt vs i := fun i hi =>
    h.wordAt_eq (.inl (List.mem_cons_of_mem 1 hi))
  have hdebit : debitPosition (kindOf ws) ∈ [5, 10] := by cases kindOf ws <;> decide
  have hcredit : creditPosition (kindOf ws) ∈ [5, 10] := by cases kindOf ws <;> decide
  rw [reading_eq rfl, reading_eq hkind, h.wordAt_eq (i := 1) (.inl (by decide)),
    upper_wordAt_congr h.map_upper, haccount _ hdebit, haccount _ hcredit,
    h.date_reading_congr hlength htwelve]

lemma parse_congr (h : SameButForCase ws vs) (htwelve : ws.length ≠ 12) : parse ws = parse vs := by
  by_cases houtside : ws.length < leastWords ∨ mostWords < ws.length
  · rw [parse_eq, parse_eq, ← h.length, if_pos houtside, if_pos houtside]
  · have hlength : HasLength ws := by
      simp only [HasLength]
      omega
    have hlength' : HasLength vs := by
      rwa [HasLength, ← h.length]
    rw [hlength.parse_eq, hlength'.parse_eq, firstMissing?_congr h.map_upper,
      h.reading_congr hlength htwelve]

end SameButForCase

/-! ## Sentences -/

/-- The instruction has its account ids and its day from the words of the list as they stand. -/
structure TakenFrom (i : Instruction Number String) (words : List String) : Prop where
  debit : words[debitPosition i.kind]? = some i.debit
  credit : words[creditPosition i.kind]? = some i.credit
  date : i.date = if leastWords < words.length then words.getLast? else none

lemma takenFrom_of_parse {words : List String} {i : Instruction Number String}
    (h : parse words = .ok i) : TakenFrom i words := by
  have hverdict := verdict_parse words
  rw [h] at hverdict
  cases hverdict with
  | accepted _ _ _ _ _ _ hdebit hcredit hdate =>
    refine ⟨hdebit, hcredit, ?_⟩
    cases hdate with
    | nothing hshort => rw [if_neg (Nat.not_lt.mpr hshort.le)]
    | day hlong _ hlast => rw [if_pos hlong, hlast]

/-- Letter case does not matter to a sentence but in the words that are taken as they stand, and of
those it is kept. -/
theorem parse_sameButForCase {ws vs : List String} (h : SameButForCase ws vs)
    (htwelve : ws.length ≠ 12) :
    parse ws = parse vs ∧
      ∀ i, parse ws = .ok i → TakenFrom i ws ∧ TakenFrom i vs := by
  have hparse := h.parse_congr htwelve
  exact ⟨hparse, fun i hi => ⟨takenFrom_of_parse hi, takenFrom_of_parse (hparse ▸ hi)⟩⟩

/-- A sentence in upper case but for its account ids. -/
def loudWords : List String :=
  ["CREDIT", "1E3", "USD", "TO", "ACCOUNT", "On", "FOR", "DEBIT", "FROM", "ACCOUNT", "aB", "ON",
    "2030-01-01"]

/-- The same sentence in lower case, with a dotless i and a long s. -/
def quietWords : List String :=
  ["cred\u0131t", "1E3", "u\u017fd", "to", "account", "On", "for", "deb\u0131t", "from", "account",
    "aB", "on", "2030-01-01"]

/-- Letters that have their upper case in ASCII count as well. -/
theorem parse_sameButForCase_quiet :
    SameButForCase loudWords quietWords ∧ loudWords.length ≠ 12 ∧
      parse loudWords = parse quietWords ∧
      ∃ i, parse loudWords = .ok i ∧ TakenFrom i loudWords ∧ TakenFrom i quietWords ∧
        i = ⟨.credit, .whole 1000, "USD", "aB", "On", some "2030-01-01"⟩ := by
  have hupper : loudWords.map Text.upper = quietWords.map Text.upper := by decide +kernel
  have hsame : SameButForCase loudWords quietWords := by
    refine ⟨rfl, fun i hi => ?_, fun i _ => map_upper_eq_iff.mp hupper i⟩
    rcases hi with hi | ⟨_, rfl⟩
    · simp only [List.mem_cons, List.not_mem_nil, or_false] at hi
      rcases hi with rfl | rfl | rfl <;> rfl
    · rfl
  have htwelve : loudWords.length ≠ 12 := by decide
  have hread : parse loudWords =
      .ok ⟨.credit, .whole 1000, "USD", "aB", "On", some "2030-01-01"⟩ := by decide +kernel
  obtain ⟨hparse, htaken⟩ := parse_sameButForCase hsame htwelve
  exact ⟨hsame, htwelve, hparse, _, hread, (htaken _ hread).1, (htaken _ hread).2, rfl⟩

end Remittance.Sentence
