import Remittance.Proofs.FormSymmetry
import Remittance.Proofs.WordRuns
import Remittance.Proofs.WrittenNumber

/-!
# Sentences are read back

A text `Spells` words if it has them in a row, with a gap between each and the next and maybe word
breaks at its ends.  Its words are then the ones that it spells (`Text.words_of_spells`), however
wide the gaps are and whatever they are made of.

`Sentence.read_spelled` puts this together with the parser, which reads every word by its place, and
with the capture of integers.  What a sentence says is therefore read from every text that spells it,
also if an account id, the currency or the day is the same word as a keyword.
-/

namespace Remittance

namespace Text

/-! ## Texts that spell words -/

/-- The word stays whole between gaps: it is not empty, and no character of it separates words. -/
def IsWord (word : String) : Prop :=
  word ≠ "" ∧ ∀ c ∈ word.toList, isWordBreak c = false

/-- The text can stand at the ends of another one without a word of its own: it holds word breaks
only, or nothing. -/
def IsPadding (s : String) : Prop :=
  ∀ c ∈ s.toList, isWordBreak c = true

-- The characters of the texts are gone through, and not all characters that there are.
instance (word : String) : Decidable (IsWord word) :=
  decidable_of_iff (word ≠ "" ∧ word.toList.all (fun c => !isWordBreak c) = true) (by simp [IsWord])

instance (s : String) : Decidable (IsPadding s) :=
  decidable_of_iff (s.toList.all isWordBreak = true) (by simp [IsPadding])

/-- The text is the words in a row, with a gap behind each of them but the last. -/
inductive Joins : List String → String → Prop
  | last (word : String) : Joins [word] word
  | cons {later : List String} {text : String} (word gap : String) (hgap : IsGap gap)
    (hlater : Joins later text) : Joins (word :: later) (word ++ gap ++ text)

/-- The text is the words in a row with gaps between them, and has padding at both ends. -/
def Spells (ws : List String) (text : String) : Prop :=
  ∃ front body back, IsPadding front ∧ Joins ws body ∧ IsPadding back ∧
    text = front ++ body ++ back

lemma IsPlainWord.isWord {word : String} (h : IsPlainWord word) : IsWord word :=
  ⟨h.1, fun c hc => (h.2 c hc).1⟩

lemma words_of_isWord {word : String} (h : IsWord word) : words word = [word] := by
  have hscan := scanWords_append h.2 []
  rw [List.append_nil] at hscan
  have hne : word.toList ≠ [] := fun hnil => h.1 (String.toList_eq_nil_iff.mp hnil)
  rw [words, hscan]
  simp [scanWords, close_of_ne_nil hne]

/-- Padding in front of a text adds no words, -/
lemma words_padding_append {pad : String} (hpad : IsPadding pad) (s : String) :
    words (pad ++ s) = words s := by
  rw [words_eq_runs, words_eq_runs, String.toList_append, runs_breaks_append hpad]

/-- and neither does padding behind it, which is empty or a gap before nothing. -/
lemma words_append_padding {pad : String} (hpad : IsPadding pad) (s : String) :
    words (s ++ pad) = words s := by
  by_cases hempty : pad = ""
  · rw [hempty, String.append_empty]
  · have hwords := words_append_gap ⟨hempty, hpad⟩ s ""
    rw [String.append_empty] at hwords
    rw [hwords]
    exact List.append_nil _

lemma words_of_joins {ws : List String} {text : String} (h : Joins ws text)
    (hws : ∀ w ∈ ws, IsWord w) : words text = ws := by
  induction h with
  | last word => exact words_of_isWord (hws word List.mem_cons_self)
  | cons word gap hgap hlater ih =>
    obtain ⟨hword, hws⟩ := List.forall_mem_cons.mp hws
    rw [words_append_gap hgap, words_of_isWord hword, ih hws, List.singleton_append]

/-- The words of a text are the ones that it spells. -/
theorem words_of_spells {ws : List String} {text : String} (h : Spells ws text)
    (hws : ∀ w ∈ ws, IsWord w) : words text = ws := by
  obtain ⟨front, body, back, hfront, hbody, hback, rfl⟩ := h
  rw [words_append_padding hback, words_padding_append hfront, words_of_joins hbody hws]

end Text

/-! ## Sentences -/

namespace Sentence

/-- The words of a sentence stay whole between gaps if those that it is written with do. -/
lemma isWord_of_mem_words {kind : Kind} {amount currency debit credit : String}
    {date : Option String}
    (h : ∀ w ∈ [amount, currency, debit, credit] ++ date.toList, Text.IsWord w) :
    ∀ w ∈ words kind amount currency debit credit date, Text.IsWord w := by
  have hkeywords : ∀ w ∈ keywords, Text.IsWord w := by decide +kernel
  intro w hw
  rcases mem_words hw with hw | hw
  · exact hkeywords w hw
  · exact h w hw

/-- A sentence whose amount is an integer in range is read back exactly, however its words are
spaced. -/
theorem read_spelled (kind : Kind) {n : Int} {currency debit credit : String}
    {date : Option String} {text : String} (hn : n.natAbs ≤ Numeral.Magnitude.largest)
    (hwords : ∀ w ∈ [currency, debit, credit] ++ date.toList, Text.IsWord w)
    (htext : Text.Spells (words kind (Numeral.integer n) currency debit credit date) text) :
    read text = .ok ⟨kind, .whole n, Text.upper currency, debit, credit, date⟩ := by
  have hall : ∀ w ∈ [Numeral.integer n, currency, debit, credit] ++ date.toList, Text.IsWord w :=
    List.forall_mem_cons.mpr ⟨(Text.isPlainWord_integer n).isWord, hwords⟩
  rw [read, Text.words_of_spells htext (isWord_of_mem_words hall), parse_words,
    Number.capture_integer hn]

/-- A sentence in which the account ids, the currency and the day are keywords, with an amount that
no floating-point number is equal to and with gaps of all kinds. -/
def ofKeywords : String :=
  "\u1361 CREDIT -9007199254740993\tto TO\u3000\u3000ACCOUNT on\r\nFOR DEBIT\u2003FROM " ++
    "ACCOUNT \u1361 Account ON DEBIT\u00a0"

theorem read_spelled_keywords :
    (-9007199254740993 : Int).natAbs ≤ Numeral.Magnitude.largest ∧
      (∀ w ∈ ["to", "Account", "on"] ++ (some "DEBIT").toList, Text.IsWord w) ∧
      Text.Spells
        (words .credit (Numeral.integer (-9007199254740993)) "to" "Account" "on" (some "DEBIT"))
        ofKeywords ∧
      read ofKeywords =
        .ok ⟨.credit, .whole (-9007199254740993), Text.upper "to", "Account", "on",
          some "DEBIT"⟩ := by
  have hn : (-9007199254740993 : Int).natAbs ≤ Numeral.Magnitude.largest := by decide +kernel
  have hwords : ∀ w ∈ ["to", "Account", "on"] ++ (some "DEBIT").toList, Text.IsWord w := by
    decide +kernel
  have hspace : Text.IsGap " " := by decide +kernel
  have htext : Text.Spells
      (words .credit (Numeral.integer (-9007199254740993)) "to" "Account" "on" (some "DEBIT"))
      ofKeywords := by
    have hbody := Text.Joins.cons "CREDIT" " " hspace <|
      .cons (Numeral.integer (-9007199254740993)) "\t" (by decide +kernel) <|
      .cons "to" " " hspace <| .cons "TO" "\u3000\u3000" (by decide +kernel) <|
      .cons "ACCOUNT" " " hspace <| .cons "on" "\r\n" (by decide +kernel) <|
      .cons "FOR" " " hspace <| .cons "DEBIT" "\u2003" (by decide +kernel) <|
      .cons "FROM" " " hspace <| .cons "ACCOUNT" " \u1361 " (by decide +kernel) <|
      .cons "Account" " " hspace <| .cons "ON" " " hspace <| .last "DEBIT"
    exact ⟨"\u1361 ", _, "\u00a0", by decide +kernel, hbody, by decide +kernel,
      by decide +kernel⟩
  exact ⟨hn, hwords, htext, read_spelled .credit hn hwords htext⟩

end Sentence

end Remittance
