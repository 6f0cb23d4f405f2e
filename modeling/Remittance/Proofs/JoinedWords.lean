import Mathlib.Data.List.Basic
import Remittance.Text.Words

/-!
# Words that are joined with spaces

A text may be made by joining words with single spaces.  Its words are the ones it was made of, as
long as none of them is empty or holds a word break (`words_intercalate`), and its ends are left
alone by `trim` if no character of the words is trimmable (`trim_intercalate`).  The two sets of
blank characters differ, and a word has to keep clear of both.
-/

namespace Remittance.Text

/-- The word can stand in a sentence: it is not empty, and no character of it separates words or is
taken off the ends of a text. -/
def IsPlainWord (word : String) : Prop :=
  word ≠ "" ∧ ∀ c ∈ word.toList, isWordBreak c = false ∧ isTrimmable c = false

-- The characters of the word are gone through, and not all characters that there are.
instance (word : String) : Decidable (IsPlainWord word) :=
  decidable_of_iff
    (word ≠ "" ∧ word.toList.all (fun c => !isWordBreak c && !isTrimmable c) = true)
    (by simp [IsPlainWord])

lemma IsPlainWord.toList_ne_nil {word : String} (h : IsPlainWord word) : word.toList ≠ [] :=
  fun hnil => h.1 (String.toList_eq_nil_iff.mp hnil)

/-! ## Words -/

/-- Characters that are no word breaks go in front of the first run. -/
lemma scanWords_append {word : List Char} (h : ∀ c ∈ word, isWordBreak c = false)
    (cs : List Char) :
    scanWords (word ++ cs) = (word ++ (scanWords cs).1, (scanWords cs).2) := by
  induction word with
  | nil => rfl
  | cons c word ih =>
    obtain ⟨hc, hword⟩ := List.forall_mem_cons.mp h
    rw [List.cons_append, scanWords, ih hword]
    simp [hc]

lemma scanWords_space_cons (cs : List Char) :
    scanWords (' ' :: cs) = ([], close (scanWords cs).1 (scanWords cs).2) := by
  have hspace : isWordBreak ' ' = true := by decide
  simp [scanWords, hspace]

lemma close_of_ne_nil {word : List Char} (h : word ≠ []) (later : List (List Char)) :
    close word later = word :: later := by
  cases word with
  | nil => exact absurd rfl h
  | cons c cs => rfl

/-- The runs of a text that joins words are the words. -/
lemma scanWords_intercalate {later : List (List Char)} :
    ∀ {word : List Char},
      (∀ w ∈ word :: later, w ≠ [] ∧ ∀ c ∈ w, isWordBreak c = false) →
      scanWords ([' '].intercalate (word :: later)) = (word, later) := by
  induction later with
  | nil =>
    intro word h
    obtain ⟨_, hword⟩ := h word List.mem_cons_self
    have happend := scanWords_append hword []
    simpa [scanWords] using happend
  | cons next later ih =>
    intro word h
    obtain ⟨hfirst, hlater⟩ := List.forall_mem_cons.mp h
    have hnext : next ≠ [] := (hlater next List.mem_cons_self).1
    rw [List.intercalate_cons_cons, List.append_assoc, List.singleton_append,
      scanWords_append hfirst.2, scanWords_space_cons, ih hlater, close_of_ne_nil hnext,
      List.append_nil]

/-- The words of a text that was made of words. -/
theorem words_intercalate {ws : List String} (h : ∀ w ∈ ws, IsPlainWord w) :
    words (" ".intercalate ws) = ws := by
  have hspace : " ".toList = [' '] := rfl
  rw [words, String.toList_intercalate, hspace]
  cases ws with
  | nil => rfl
  | cons word later =>
    have hplain : ∀ w ∈ word.toList :: later.map String.toList,
        w ≠ [] ∧ ∀ c ∈ w, isWordBreak c = false := by
      rw [← List.map_cons, List.forall_mem_map]
      intro w hw
      exact ⟨(h w hw).toList_ne_nil, fun c hc => ((h w hw).2 c hc).1⟩
    have hne : word.toList ≠ [] := (hplain _ List.mem_cons_self).1
    rw [List.map_cons, scanWords_intercalate hplain]
    simp [close_of_ne_nil hne]

/-! ## Ends -/

/-- Nothing is taken off a text whose first and last characters are not of the set. -/
lemma trimWith_eq_of_ends {blank : Char → Bool} {cs : List Char}
    (hfirst : ∀ c ∈ cs.head?, blank c = false) (hlast : ∀ c ∈ cs.getLast?, blank c = false) :
    trimWith blank cs = cs := by
  have hdrop : ∀ {ds : List Char}, (∀ c ∈ ds.head?, blank c = false) →
      ds.dropWhile blank = ds := by
    rintro (_ | ⟨c, later⟩) hds
    · rfl
    · exact List.dropWhile_cons_of_neg (by simp [hds c rfl])
  have hreverse : ∀ c ∈ cs.reverse.head?, blank c = false := by
    rwa [List.head?_reverse]
  rw [trimWith, hdrop hfirst, hdrop hreverse, List.reverse_reverse]

/-- The first character of joined words is one of the first word. -/
lemma head?_intercalate {sep word : List Char} (h : word ≠ []) (later : List (List Char)) :
    (sep.intercalate (word :: later)).head? = word.head? := by
  cases later with
  | nil => simp
  | cons next later =>
    rw [List.intercalate_cons_cons, List.append_assoc, List.head?_append_of_ne_nil _ h]

/-- The last character of joined words is one of the last word. -/
lemma getLast?_intercalate (sep : List Char) {later : List (List Char)} :
    ∀ {word : List Char}, (∀ w ∈ word :: later, w ≠ []) →
      ∃ last ∈ word :: later, (sep.intercalate (word :: later)).getLast? = last.getLast? := by
  induction later with
  | nil =>
    intro word _
    exact ⟨word, List.mem_cons_self, by simp⟩
  | cons next later ih =>
    intro word h
    obtain ⟨_, hlater⟩ := List.forall_mem_cons.mp h
    obtain ⟨last, hmem, hlast⟩ := ih hlater
    have hlastne : last.getLast? ≠ none := by
      rw [Ne, List.getLast?_eq_none_iff]
      exact hlater last hmem
    refine ⟨last, List.mem_cons_of_mem word hmem, ?_⟩
    rw [List.intercalate_cons_cons, List.getLast?_append, hlast]
    cases hsome : last.getLast? with
    | none => exact absurd hsome hlastne
    | some c => rfl

/-- The ends of a text that was made of words are left alone. -/
theorem trim_intercalate {ws : List String} (h : ∀ w ∈ ws, IsPlainWord w) :
    trim (" ".intercalate ws) = " ".intercalate ws := by
  rw [trim, String.toList_intercalate]
  cases ws with
  | nil => rfl
  | cons word later =>
    have hplain : ∀ w ∈ word.toList :: later.map String.toList,
        w ≠ [] ∧ ∀ c ∈ w, isTrimmable c = false := by
      rw [← List.map_cons, List.forall_mem_map]
      intro w hw
      exact ⟨(h w hw).toList_ne_nil, fun c hc => ((h w hw).2 c hc).2⟩
    have hfirst := hplain _ List.mem_cons_self
    obtain ⟨last, hmem, hlast⟩ :=
      getLast?_intercalate " ".toList fun w hw => (hplain w hw).1
    rw [List.map_cons, trimWith_eq_of_ends]
    · rw [← List.map_cons, ← String.toList_intercalate, String.ofList_toList]
    · intro c hc
      rw [head?_intercalate hfirst.1] at hc
      exact hfirst.2 c (List.mem_of_mem_head? hc)
    · intro c hc
      rw [hlast] at hc
      exact (hplain last hmem).2 c (List.mem_of_mem_getLast? hc)

/-- A plain word has nothing to trim. -/
lemma trim_of_isPlainWord {word : String} (h : IsPlainWord word) : trim word = word := by
  have htrim := trim_intercalate (List.forall_mem_singleton.mpr h)
  rwa [String.intercalate_singleton] at htrim

end Remittance.Text
