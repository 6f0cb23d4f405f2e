import Mathlib.Data.List.TakeWhile
import Remittance.Proofs.JoinedWords

/-!
# Texts that are put together

A run of word breaks (`IsGap`) ends one word and starts another, so that the words of a text around
a gap are those before it and those after it, whatever the gap is made of (`words_append_gap`).

To trim a text takes off blank ends that are put on (`trim_append_blank`), and does not get beyond a
part with content: what stands between two such parts is kept as it is (`exists_trim_append`).
-/

namespace Remittance.Text

/-- The text separates words: it holds word breaks only, and at least one. -/
def IsGap (s : String) : Prop :=
  s ≠ "" ∧ ∀ c ∈ s.toList, isWordBreak c = true

/-- Nothing is left of the text once its ends are trimmed. -/
def IsBlank (s : String) : Prop :=
  ∀ c ∈ s.toList, isTrimmable c = true

/-- Something is left of the text once its ends are trimmed. -/
def HasContent (s : String) : Prop :=
  ∃ c ∈ s.toList, isTrimmable c = false

-- The characters of the texts are gone through, and not all characters that there are.
instance (s : String) : Decidable (IsGap s) :=
  decidable_of_iff (s ≠ "" ∧ s.toList.all isWordBreak = true) (by simp [IsGap])

instance (s : String) : Decidable (IsBlank s) :=
  decidable_of_iff (s.toList.all isTrimmable = true) (by simp [IsBlank])

instance (s : String) : Decidable (HasContent s) :=
  decidable_of_iff (s.toList.any (fun c => !isTrimmable c) = true) (by simp [HasContent])

/-! ## Words around a gap -/

/-- The words of a text as runs of characters. -/
def runs (cs : List Char) : List (List Char) :=
  close (scanWords cs).1 (scanWords cs).2

lemma words_eq_runs (s : String) : words s = (runs s.toList).map String.ofList :=
  rfl

lemma close_append (word : List Char) (later more : List (List Char)) :
    close word (later ++ more) = close word later ++ more := by
  cases word <;> rfl

lemma scanWords_break_cons {c : Char} (hc : isWordBreak c = true) (cs : List Char) :
    scanWords (c :: cs) = ([], runs cs) := by
  rw [scanWords, runs]
  simp only [hc, if_true]

/-- The first word of a text and the later ones do not change when more comes after a break. -/
lemma scanWords_append_break {c : Char} (hc : isWordBreak c = true) (front back : List Char) :
    scanWords (front ++ c :: back) =
      ((scanWords front).1, (scanWords front).2 ++ runs back) := by
  induction front with
  | nil => exact scanWords_break_cons hc back
  | cons d front ih =>
    rw [List.cons_append, scanWords, ih, scanWords]
    by_cases hd : isWordBreak d = true
    · simp only [hd, if_true, close_append]
    · simp only [hd, Bool.false_eq_true, if_false]

lemma runs_append_break {c : Char} (hc : isWordBreak c = true) (front back : List Char) :
    runs (front ++ c :: back) = runs front ++ runs back := by
  rw [runs, scanWords_append_break hc, close_append]
  rfl

/-- Breaks in front of a text add no words. -/
lemma runs_breaks_append {gap : List Char} (hgap : ∀ c ∈ gap, isWordBreak c = true)
    (cs : List Char) : runs (gap ++ cs) = runs cs := by
  induction gap with
  | nil => rfl
  | cons c gap ih =>
    obtain ⟨hc, hgap⟩ := List.forall_mem_cons.mp hgap
    rw [List.cons_append, runs, scanWords_break_cons hc, ih hgap]
    rfl

/-- The words around a gap are those before it and those after it. -/
theorem words_append_gap {gap : String} (hgap : IsGap gap) (front back : String) :
    words (front ++ gap ++ back) = words front ++ words back := by
  obtain ⟨hne, hbreaks⟩ := hgap
  obtain ⟨c, cs, hcs⟩ : ∃ c cs, gap.toList = c :: cs :=
    List.exists_cons_of_ne_nil fun hnil => hne (String.toList_eq_nil_iff.mp hnil)
  rw [hcs, List.forall_mem_cons] at hbreaks
  rw [words_eq_runs, words_eq_runs, words_eq_runs, String.toList_append, String.toList_append, hcs,
    List.append_assoc, List.cons_append, runs_append_break hbreaks.1,
    runs_breaks_append hbreaks.2, List.map_append]

/-- A plain word is the only word of itself. -/
lemma words_of_isPlainWord {word : String} (h : IsPlainWord word) : words word = [word] := by
  have hwords := words_intercalate (List.forall_mem_singleton.mpr h)
  rwa [String.intercalate_singleton] at hwords

/-! ## Blank ends -/

section Trim

variable {blank : Char → Bool}

/-- Characters to be taken off a text do not reach beyond one that stays. -/
lemma dropWhile_append_of_exists {front : List Char} (h : ∃ c ∈ front, blank c = false)
    (back : List Char) : (front ++ back).dropWhile blank = front.dropWhile blank ++ back := by
  induction front with
  | nil => simp at h
  | cons c front ih =>
    rw [List.cons_append]
    by_cases hc : blank c = true
    · rw [List.dropWhile_cons_of_pos hc, List.dropWhile_cons_of_pos hc]
      refine ih ?_
      simpa [hc] using h
    · rw [List.dropWhile_cons_of_neg hc, List.dropWhile_cons_of_neg hc, List.cons_append]

lemma trimWith_append_blank {front back : List Char} (hfront : ∀ c ∈ front, blank c = true)
    (hback : ∀ c ∈ back, blank c = true) (cs : List Char) :
    trimWith blank (front ++ (cs ++ back)) = trimWith blank cs := by
  rw [trimWith, List.dropWhile_append_of_pos hfront, trimWith]
  by_cases hcs : ∃ c ∈ cs, blank c = false
  · have hreverse : ∀ c ∈ back.reverse, blank c = true := by simpa using hback
    rw [dropWhile_append_of_exists hcs, List.reverse_append, List.dropWhile_append_of_pos hreverse]
  · have hall : ∀ c ∈ cs, blank c = true := by simpa using hcs
    have hnil : cs.dropWhile blank = [] := List.dropWhile_eq_nil_iff.mpr hall
    rw [List.dropWhile_append_of_pos hall, List.dropWhile_eq_nil_iff.mpr hback, hnil]

/-- Between two parts with content everything is kept. -/
lemma trimWith_append {front back : List Char} (hfront : ∃ c ∈ front, blank c = false)
    (hback : ∃ c ∈ back, blank c = false) (cs : List Char) :
    trimWith blank (front ++ (cs ++ back)) =
      front.dropWhile blank ++ (cs ++ (back.reverse.dropWhile blank).reverse) := by
  have hreverse : ∃ c ∈ back.reverse, blank c = false := by simpa using hback
  rw [trimWith, dropWhile_append_of_exists hfront, List.reverse_append, List.reverse_append,
    List.append_assoc, dropWhile_append_of_exists hreverse, List.reverse_append,
    List.reverse_append, List.reverse_reverse, List.reverse_reverse, List.append_assoc]

/-- A trimmed text starts with a character that stays. -/
lemma head?_trimWith (cs : List Char) : ∀ c ∈ (trimWith blank cs).head?, blank c = false := by
  intro c hc
  have hprefix : trimWith blank cs <+: cs.dropWhile blank := by
    rw [← List.reverse_suffix, trimWith, List.reverse_reverse]
    exact List.dropWhile_suffix blank
  obtain ⟨later, hlater⟩ := hprefix
  have hne : trimWith blank cs ≠ [] := fun hnil => by
    rw [hnil] at hc
    cases hc
  have hhead := List.head?_dropWhile_not blank cs
  rw [← hlater, List.head?_append_of_ne_nil _ hne, Option.mem_def.mp hc] at hhead
  exact hhead

/-- A trimmed text ends with a character that stays. -/
lemma getLast?_trimWith (cs : List Char) :
    ∀ c ∈ (trimWith blank cs).getLast?, blank c = false := by
  intro c hc
  have hhead := List.head?_dropWhile_not blank (cs.dropWhile blank).reverse
  rw [trimWith, List.getLast?_reverse] at hc
  rw [Option.mem_def.mp hc] at hhead
  exact hhead

/-- Nothing is taken off a text exactly if its first and last characters are not of the set. -/
lemma trimWith_eq_self_iff {cs : List Char} :
    trimWith blank cs = cs ↔
      (∀ c ∈ cs.head?, blank c = false) ∧ ∀ c ∈ cs.getLast?, blank c = false := by
  constructor
  · intro h
    have hfirst : ∀ c ∈ (trimWith blank cs).head?, blank c = false := head?_trimWith cs
    have hlast : ∀ c ∈ (trimWith blank cs).getLast?, blank c = false := getLast?_trimWith cs
    rw [h] at hfirst hlast
    exact ⟨hfirst, hlast⟩
  · rintro ⟨hfirst, hlast⟩
    exact trimWith_eq_of_ends hfirst hlast

lemma trimWith_trimWith (cs : List Char) : trimWith blank (trimWith blank cs) = trimWith blank cs :=
  trimWith_eq_of_ends (head?_trimWith cs) (getLast?_trimWith cs)

end Trim

lemma trim_eq_self_iff {s : String} : trim s = s ↔ trimWith isTrimmable s.toList = s.toList := by
  rw [trim, ← String.toList_inj, String.toList_ofList]

/-- Trimming a text twice is trimming it once. -/
@[simp] lemma trim_trim (s : String) : trim (trim s) = trim s := by
  rw [trim, trim, String.toList_ofList, trimWith_trimWith]

/-- Blank ends that are put on a text are taken off again. -/
theorem trim_append_blank {front back : String} (hfront : IsBlank front) (hback : IsBlank back)
    (s : String) : trim (front ++ s ++ back) = trim s := by
  rw [trim, trim, String.toList_append, String.toList_append, List.append_assoc,
    trimWith_append_blank hfront hback]

/-- What stands between two parts with content is kept. -/
theorem exists_trim_append {front back : String} (hfront : HasContent front)
    (hback : HasContent back) :
    ∃ front' back', ∀ s, trim (front ++ s ++ back) = front' ++ s ++ back' := by
  refine ⟨String.ofList (front.toList.dropWhile isTrimmable),
    String.ofList ((back.toList.reverse.dropWhile isTrimmable).reverse), fun s => ?_⟩
  rw [trim, String.toList_append, String.toList_append, List.append_assoc,
    trimWith_append hfront hback, String.ofList_append, String.ofList_append, String.ofList_toList,
    String.append_assoc]

/-- A trimmed text that goes on and ends in a plain word has nothing to trim. -/
theorem trim_trim_append {front word : String} (hfront : trim front ≠ "") (hword : IsPlainWord word)
    (s : String) : trim (trim front ++ s ++ word) = trim front ++ s ++ word := by
  have hne : trimWith isTrimmable front.toList ≠ [] := fun hnil => hfront (by rw [trim, hnil])
  have htrim : (trim front).toList = trimWith isTrimmable front.toList := String.toList_ofList
  have hends : trimWith isTrimmable (trim front ++ s ++ word).toList =
      (trim front ++ s ++ word).toList := by
    rw [String.toList_append, String.toList_append, htrim]
    refine trimWith_eq_of_ends (fun c hc => ?_) (fun c hc => ?_)
    · rw [List.append_assoc, List.head?_append_of_ne_nil _ hne] at hc
      exact head?_trimWith _ c hc
    · rw [List.getLast?_append_of_ne_nil _ hword.toList_ne_nil] at hc
      exact (hword.2 c (List.mem_of_mem_getLast? hc)).2
  rw [trim, hends, String.ofList_toList]

end Remittance.Text
