import Remittance.Proofs.ReadBack

/-!
# Words are maximal runs

The scan goes through a text once, from the back, and closes a word at every word break.  What it
finds are the maximal runs of characters that are no word breaks, in order (`exists_listsRuns`), and
the word breaks are the 23 characters of `wordBreaks` and no other blank ones.

The same words are the pieces between plain spaces, without the empty ones, of the text with a plain
space in the place of every word break (`words_eq_pieces`).  Nothing of a text is lost but its word
breaks (`join_words`), and joining its words with spaces gives a text with the same words
(`words_intercalate_words`).
-/

namespace Remittance.Text

/-! ## The characters that separate words -/

/-- The characters that separate words: seventeen space separators, five layout controls and the
Ethiopic word space. -/
def wordBreaks : List Char :=
  [' ', '\u00a0', '\u1680', '\u2000', '\u2001', '\u2002', '\u2003', '\u2004', '\u2005', '\u2006',
    '\u2007', '\u2008', '\u2009', '\u200a', '\u202f', '\u205f', '\u3000', '\t', '\n', '\x0b',
    '\x0c', '\r', '\u1361']

example : wordBreaks.length = 23 ∧ wordBreaks.Nodup := by decide

/-- The characters of a range are among those of a list if each of them is. -/
lemma mem_of_range {first last c : Char} {cs : List Char} (hfirst : first ≤ c) (hlast : c ≤ last)
    (hall : ∀ k < last.toNat + 1 - first.toNat, Char.ofNat (first.toNat + k) ∈ cs) : c ∈ cs := by
  have hfirst : first.toNat ≤ c.toNat := hfirst
  have hlast : c.toNat ≤ last.toNat := hlast
  have hmem := hall (c.toNat - first.toNat) (by omega)
  rwa [Nat.add_sub_cancel' hfirst, Char.ofNat_toNat] at hmem

/-- The word breaks are these characters and no others. -/
lemma isWordBreak_iff_mem {c : Char} : isWordBreak c = true ↔ c ∈ wordBreaks := by
  constructor
  · intro h
    simp only [isWordBreak, isSpaceSeparator, isLayoutControl, Bool.or_eq_true, Bool.and_eq_true,
      beq_iff_eq, decide_eq_true_eq] at h
    rcases h with (((((((rfl | rfl) | rfl) | ⟨hfirst, hlast⟩) | rfl) | rfl) | rfl) |
      ⟨hfirst, hlast⟩) | rfl
    · decide
    · decide
    · decide
    · exact mem_of_range hfirst hlast (by decide)
    · decide
    · decide
    · decide
    · exact mem_of_range hfirst hlast (by decide)
    · decide
  · intro h
    have hall : wordBreaks.all isWordBreak = true := by decide
    exact List.all_eq_true.mp hall c h

/-! ## Maximal runs -/

/-- From one position up to another there are characters, none of which is a word break, and there
are no more of them on either side: the text ends there, or a word break is next. -/
structure IsMaximalRun (cs : List Char) (start stop : Nat) : Prop where
  start_lt : start < stop
  stop_le : stop ≤ cs.length
  inside : ∀ i c, start ≤ i → i < stop → cs[i]? = some c → isWordBreak c = false
  before : ∀ i c, i + 1 = start → cs[i]? = some c → isWordBreak c = true
  after : ∀ c, cs[stop]? = some c → isWordBreak c = true

/-- A maximal run ends before the next one starts, with a word break at least between them. -/
lemma IsMaximalRun.lt_of_lt {cs : List Char} {start stop start' stop' : Nat}
    (h : IsMaximalRun cs start stop) (h' : IsMaximalRun cs start' stop') (hlt : start < start') :
    stop < start' := by
  by_contra hle
  have hlength : start' - 1 < cs.length := by
    have hstart := h'.start_lt
    have hstop := h'.stop_le
    omega
  have hbreak := h'.before (start' - 1) _ (by omega) (List.getElem?_eq_getElem hlength)
  have hinside := h.inside (start' - 1) _ (by omega) (by omega) (List.getElem?_eq_getElem hlength)
  rw [hbreak] at hinside
  cases hinside

/-- What the scan has open is the start of the text up to the first word break. -/
lemma exists_append_scanWords (cs : List Char) :
    ∃ rest, cs = (scanWords cs).1 ++ rest ∧ (∀ c ∈ (scanWords cs).1, isWordBreak c = false) ∧
      ∀ c ∈ rest[0]?, isWordBreak c = true := by
  induction cs with
  | nil => exact ⟨[], rfl, by simp [scanWords], by simp⟩
  | cons c cs ih =>
    obtain ⟨rest, hcs, hword, hrest⟩ := ih
    cases hc : isWordBreak c with
    | true => exact ⟨c :: cs, by simp [scanWords, hc], by simp [scanWords, hc], by simpa using hc⟩
    | false =>
      refine ⟨rest, ?_, ?_, hrest⟩
      · simp only [scanWords, hc, Bool.false_eq_true, if_false, List.cons_append]
        rw [← hcs]
      · simpa [scanWords, hc] using hword

/-- The maximal run at the start of a text, if there is one, is what the scan has open. -/
lemma isMaximalRun_zero_iff {cs : List Char} {stop : Nat} :
    IsMaximalRun cs 0 stop ↔ 0 < stop ∧ stop = (scanWords cs).1.length := by
  obtain ⟨rest, hcs, hword, hrest⟩ := exists_append_scanWords cs
  generalize (scanWords cs).1 = word at hcs hword
  subst hcs
  have hin : ∀ i c, i < word.length → (word ++ rest)[i]? = some c → isWordBreak c = false := by
    intro i c hi hc
    rw [List.getElem?_append_left hi] at hc
    exact hword c (List.mem_of_getElem? hc)
  have hout : ∀ c, (word ++ rest)[word.length]? = some c → isWordBreak c = true := by
    intro c hc
    rw [List.getElem?_append_right le_rfl, Nat.sub_self] at hc
    exact hrest c hc
  constructor
  · intro h
    have hstop := h.stop_le
    refine ⟨h.start_lt, le_antisymm (not_lt.mp fun hlong => ?_) (not_lt.mp fun hshort => ?_)⟩
    · have hc := List.getElem?_eq_getElem (hlong.trans_le hstop)
      exact Bool.noConfusion ((hout _ hc).symm.trans (h.inside _ _ (Nat.zero_le _) hlong hc))
    · have hlength : stop < (word ++ rest).length := by
        rw [List.length_append]
        omega
      have hc := List.getElem?_eq_getElem hlength
      exact Bool.noConfusion ((h.after _ hc).symm.trans (hin _ _ hshort hc))
  · rintro ⟨hpos, rfl⟩
    exact ⟨hpos, by simp, fun i c _ => hin i c, fun i c hi => by omega, hout⟩

/-- A later maximal run is one of the text without its first character.  If it starts there, the
character has to be a word break. -/
lemma isMaximalRun_succ_iff {c : Char} {cs : List Char} {start stop : Nat} :
    IsMaximalRun (c :: cs) (start + 1) (stop + 1) ↔
      (start = 0 → isWordBreak c = true) ∧ IsMaximalRun cs start stop := by
  constructor
  · rintro ⟨hlt, hle, hinside, hbefore, hafter⟩
    refine ⟨fun hstart => hbefore 0 c (by omega) rfl, Nat.lt_of_succ_lt_succ hlt,
      Nat.le_of_succ_le_succ hle, fun i d hi hi' hd => ?_, fun i d hi hd => ?_, hafter⟩
    · exact hinside (i + 1) d (by omega) (by omega) hd
    · exact hbefore (i + 1) d (by omega) hd
  · rintro ⟨hfirst, hlt, hle, hinside, hbefore, hafter⟩
    refine ⟨Nat.succ_lt_succ hlt, Nat.succ_le_succ hle, fun i d hi hi' hd => ?_,
      fun i d hi hd => ?_, hafter⟩
    · obtain _ | i := i
      · omega
      · exact hinside i d (by omega) (by omega) hd
    · obtain _ | i := i
      · obtain rfl : c = d := Option.some.inj hd
        exact hfirst (by omega)
      · exact hbefore i d (by omega) hd

/-! ## The scan finds all of them -/

/-- The spans are, in order, the maximal runs of the characters from a position on, and what was
found are the characters there. -/
structure ListsRuns (cs : List Char) (least : Nat) (spans : List (Nat × Nat))
    (found : List (List Char)) : Prop where
  ordered : spans.Pairwise fun a b => a.2 < b.1
  mem_iff : ∀ start stop, (start, stop) ∈ spans ↔ least ≤ start ∧ IsMaximalRun cs start stop
  found_eq : found = spans.map fun span => cs.extract span.1 span.2

/-- What the scan has open is a maximal run before all later ones. -/
lemma ListsRuns.exists_runs {cs : List Char} {later : List (Nat × Nat)}
    (h : ListsRuns cs 1 later (scanWords cs).2) : ∃ spans, ListsRuns cs 0 spans (runs cs) := by
  obtain ⟨hordered, hmem, hfound⟩ := h
  by_cases hword : (scanWords cs).1 = []
  · refine ⟨later, hordered, fun start stop => ?_, by rw [runs, hword, close, hfound]⟩
    rw [hmem]
    refine and_congr_left fun hrun => iff_of_true (Nat.pos_of_ne_zero ?_) (Nat.zero_le _)
    rintro rfl
    obtain ⟨hpos, hstop⟩ := isMaximalRun_zero_iff.mp hrun
    rw [hstop, hword] at hpos
    exact Nat.lt_irrefl 0 hpos
  · have hfirst : IsMaximalRun cs 0 (scanWords cs).1.length :=
      isMaximalRun_zero_iff.mpr ⟨List.length_pos_iff.mpr hword, rfl⟩
    refine ⟨(0, (scanWords cs).1.length) :: later, ?_, fun start stop => ?_, ?_⟩
    · refine List.pairwise_cons.mpr ⟨fun span hspan => ?_, hordered⟩
      obtain ⟨hpos, hrun⟩ := (hmem _ _).mp hspan
      exact hfirst.lt_of_lt hrun hpos
    · rw [List.mem_cons, hmem]
      obtain _ | start := start
      · have hpos := hfirst.start_lt
        rw [isMaximalRun_zero_iff, Prod.mk.injEq]
        omega
      · simp
    · obtain ⟨rest, hcs, _⟩ := exists_append_scanWords cs
      have hextract : cs.extract 0 (scanWords cs).1.length = (scanWords cs).1 := by
        rw [List.extract_eq_take_drop, List.drop_zero, Nat.sub_zero]
        exact (List.prefix_iff_eq_take.mp ⟨rest, hcs.symm⟩).symm
      rw [runs, close_of_ne_nil hword, List.map_cons, hextract, ← hfound]

/-- With one more character in front, the runs of a text move on by one.  Whether the one at its
start is still a run depends on the character. -/
lemma ListsRuns.cons {c : Char} {cs : List Char} {least : Nat} {spans : List (Nat × Nat)}
    {found : List (List Char)} (h : ListsRuns cs least spans found)
    (hleast : ∀ start, least ≤ start ↔ (start = 0 → isWordBreak c = true)) :
    ListsRuns (c :: cs) 1 (spans.map fun span => (span.1 + 1, span.2 + 1)) found := by
  obtain ⟨hordered, hmem, hfound⟩ := h
  refine ⟨?_, fun start stop => ?_, ?_⟩
  · rw [List.pairwise_map]
    exact hordered.imp fun hlt => Nat.succ_lt_succ hlt
  · obtain _ | start := start
    · simp
    obtain _ | stop := stop
    · refine iff_of_false (by simp) fun hrun => ?_
      exact absurd hrun.2.start_lt (Nat.not_lt_zero _)
    · rw [isMaximalRun_succ_iff, ← hleast, ← hmem]
      simp
  · rw [hfound, List.map_map]
    simp [List.extract_eq_take_drop]

/-- The scan of a text finds the maximal runs after its first character, beside the one that it has
open. -/
lemma exists_listsRuns (cs : List Char) : ∃ spans, ListsRuns cs 1 spans (scanWords cs).2 := by
  induction cs with
  | nil =>
    refine ⟨[], .nil, fun start stop => iff_of_false List.not_mem_nil fun hrun => ?_, rfl⟩
    exact absurd (hrun.2.start_lt.trans_le hrun.2.stop_le) (Nat.not_lt_zero _)
  | cons c cs ih =>
    obtain ⟨spans, h⟩ := ih
    cases hc : isWordBreak c with
    | true =>
      obtain ⟨spans, h⟩ := h.exists_runs
      have hfound : (scanWords (c :: cs)).2 = runs cs := by rw [scanWords_break_cons hc]
      exact ⟨_, hfound ▸ h.cons (by simp [hc])⟩
    | false =>
      have hfound : (scanWords (c :: cs)).2 = (scanWords cs).2 := by simp [scanWords, hc]
      exact ⟨_, hfound ▸ h.cons (by simp [hc, Nat.one_le_iff_ne_zero])⟩

/-! ## What is kept of a text -/

lemma flatten_close (word : List Char) (later : List (List Char)) :
    (close word later).flatten = word ++ later.flatten := by
  cases word <;> rfl

lemma flatten_scanWords (cs : List Char) :
    (scanWords cs).1 ++ (scanWords cs).2.flatten = cs.filter fun c => !isWordBreak c := by
  induction cs with
  | nil => rfl
  | cons c cs ih =>
    rw [List.filter_cons, ← ih, scanWords]
    cases isWordBreak c with
    | true => exact flatten_close _ _
    | false => rfl

/-- Joined without anything between them the words are the text without its word breaks. -/
lemma join_words (text : String) :
    String.join (words text) = String.ofList (text.toList.filter fun c => !isWordBreak c) := by
  rw [← String.toList_inj, String.toList_join, String.toList_ofList, words_eq_runs,
    ← flatten_scanWords, ← flatten_close, List.flatMap_map]
  simp only [String.toList_ofList, List.flatMap_id']
  rfl

/-- The scan finds the pieces between the spaces, of which it leaves out the empty ones. -/
lemma exists_splitOn_eq (cs : List Char) :
    ∃ pieces, (cs.map fun c => if isWordBreak c then ' ' else c).splitOn ' ' =
        (scanWords cs).1 :: pieces ∧ (scanWords cs).2 = pieces.filter (!·.isEmpty) := by
  induction cs with
  | nil => exact ⟨[], rfl, rfl⟩
  | cons c cs ih =>
    obtain ⟨pieces, hpieces, hlater⟩ := ih
    rw [List.map_cons, List.splitOn, List.splitOnP_cons_eq_if_modifyHead, ← List.splitOn, hpieces]
    cases hc : isWordBreak c with
    | true =>
      refine ⟨(scanWords cs).1 :: pieces, by simp [scanWords, hc], ?_⟩
      rw [scanWords_break_cons hc, runs, hlater]
      cases (scanWords cs).1 <;> rfl
    | false =>
      have hspace : c ≠ ' ' := by
        rintro rfl
        exact absurd hc (by decide)
      exact ⟨pieces, by simp [scanWords, hc, hspace], by simp [scanWords, hc, hlater]⟩

/-- The words of a text are the pieces between the spaces of its plain form that are not empty. -/
lemma words_eq_pieces (text : String) :
    words text =
      (((normalize text).toList.splitOn ' ').filter (!·.isEmpty)).map String.ofList := by
  obtain ⟨pieces, hpieces, hlater⟩ := exists_splitOn_eq text.toList
  rw [words_eq_runs, normalize, String.toList_ofList, hpieces, runs, hlater]
  cases (scanWords text.toList).1 <;> rfl

/-- The characters of a maximal run are not empty, and none of them is a word break. -/
lemma IsMaximalRun.isWord {cs : List Char} {start stop : Nat} (h : IsMaximalRun cs start stop) :
    IsWord (String.ofList (cs.extract start stop)) := by
  have hstart := h.start_lt
  have hstop := h.stop_le
  rw [IsWord, String.toList_ofList, List.extract_eq_take_drop]
  constructor
  · intro hempty
    have hlength := congrArg String.length hempty
    simp at hlength
    omega
  · intro c hc
    obtain ⟨i, hi, rfl⟩ := List.mem_iff_getElem.mp hc
    rw [List.length_take, List.length_drop] at hi
    rw [List.getElem_take, List.getElem_drop]
    exact h.inside (start + i) _ (by omega) (by omega) (List.getElem?_eq_getElem (by omega))

/-- No word is empty or holds a word break. -/
lemma isWord_of_mem_words {text word : String} (h : word ∈ words text) : IsWord word := by
  obtain ⟨spans, hspans⟩ := exists_listsRuns text.toList
  obtain ⟨spans, hspans⟩ := hspans.exists_runs
  rw [words_eq_runs, hspans.found_eq, List.map_map] at h
  obtain ⟨span, hspan, rfl⟩ := List.mem_map.mp h
  exact ((hspans.mem_iff _ _).mp hspan).2.isWord

/-! ## Words that are joined again -/

lemma joins_intercalate (word : String) (later : List String) :
    Joins (word :: later) (" ".intercalate (word :: later)) := by
  induction later generalizing word with
  | nil =>
    rw [String.intercalate_singleton]
    exact .last word
  | cons next later ih =>
    rw [String.intercalate_cons_cons]
    exact .cons word " " (by decide +kernel) (ih next)

/-- A text that joins the words of another one has the same words. -/
lemma words_intercalate_words (text : String) :
    words (" ".intercalate (words text)) = words text := by
  have hwords : ∀ w ∈ words text, IsWord w := fun _ hw => isWord_of_mem_words hw
  generalize words text = ws at hwords
  cases ws with
  | nil => rfl
  | cons word later => exact words_of_joins (joins_intercalate word later) hwords

/-- The words of a text are its maximal runs of characters that are no word breaks, in order. -/
theorem words_maximal (text : String) :
    (∀ c, isWordBreak c = true ↔ c ∈ wordBreaks) ∧
      (∃ spans : List (Nat × Nat), spans.Pairwise (fun a b => a.2 < b.1) ∧
        (∀ start stop, (start, stop) ∈ spans ↔ IsMaximalRun text.toList start stop) ∧
        words text = spans.map fun span => String.ofList (text.toList.extract span.1 span.2)) ∧
      (∀ word ∈ words text, IsWord word) ∧
      String.join (words text) = String.ofList (text.toList.filter fun c => !isWordBreak c) ∧
      words text =
        (((normalize text).toList.splitOn ' ').filter (!·.isEmpty)).map String.ofList ∧
      words (" ".intercalate (words text)) = words text ∧
      ∀ front gap back, IsGap gap → words (front ++ gap ++ back) = words front ++ words back := by
  refine ⟨fun _ => isWordBreak_iff_mem, ?_, fun _ => isWord_of_mem_words, join_words text,
    words_eq_pieces text, words_intercalate_words text,
    fun front gap back hgap => words_append_gap hgap front back⟩
  obtain ⟨later, hlater⟩ := exists_listsRuns text.toList
  obtain ⟨spans, hordered, hmem, hfound⟩ := hlater.exists_runs
  refine ⟨spans, hordered, fun start stop => ?_, ?_⟩
  · rw [hmem]
    exact and_iff_right (Nat.zero_le start)
  · rw [words_eq_runs, hfound, List.map_map]
    rfl

/-- A zero-width space, a line separator and a next line look blank and stay in their words, also
next to a gap of word breaks. -/
theorem words_maximal_lookAlike :
    "\u200b5\u2028" ∈ words "\u1361 debit\u00a0\u200b5\u2028\x0busd\u0085" ∧
      IsWord "\u200b5\u2028" ∧
      IsGap "\u3000\t" ∧
      words ("debit \u200b5\u2028" ++ "\u3000\t" ++ "usd\u0085") =
        words "debit \u200b5\u2028" ++ words "usd\u0085" := by
  have hmem : "\u200b5\u2028" ∈ words "\u1361 debit\u00a0\u200b5\u2028\x0busd\u0085" := by
    decide +kernel
  have hgap : IsGap "\u3000\t" := by decide +kernel
  obtain ⟨_, _, hwords, _, _, _, hgaps⟩ :=
    words_maximal "\u1361 debit\u00a0\u200b5\u2028\x0busd\u0085"
  exact ⟨hmem, hwords _ hmem, hgap, hgaps _ _ _ hgap⟩

end Remittance.Text
