import ApiTools.Text.Cut
import ApiTools.Proofs.Text.Trimmed
import Mathlib.Tactic.SplitIfs

/-!
# Collapsed texts

The words of a text are the nonempty pieces between its blank characters (`wordChars_eq_splitOnP`).
A collapsed text is made of them, with one space between neighbours, and the words of such a text
are the same ones (`wordChars_intercalate`), so that collapsing it again changes nothing.  The only
blank characters in it are these spaces, so it has no blank character at either end and no line
break (`collapse_eq_join_words`).
-/

namespace ApiTools.Text

variable {c : Char} {cs word begun rest : List Char} {parts : List (List Char)}

/-- Characters of a word: there are some, and none of them is blank. -/
def IsWord (word : List Char) : Prop := word ≠ [] ∧ ∀ c ∈ word, isBlank c = false

/-- Does the character end a line?  Line feed, vertical tab, form feed, carriage return, next line,
and the separators of lines and of paragraphs do. -/
def isLineBreak (c : Char) : Bool :=
  let n := c.toNat
  (10 ≤ n && n ≤ 13) || n == 0x85 || n == 0x2028 || n == 0x2029

/-! ### Words -/

theorem wordsFrom_cons_blank (hc : isBlank c = true) (hword : word ≠ []) :
    wordsFrom word (c :: rest) = word.reverse :: wordsFrom [] rest := by
  rw [wordsFrom, if_pos hc, if_neg (by simpa using hword)]

theorem wordsFrom_nil_cons_blank (hc : isBlank c = true) :
    wordsFrom [] (c :: rest) = wordsFrom [] rest := by
  rw [wordsFrom, if_pos hc]
  rfl

theorem wordsFrom_cons (hc : isBlank c = false) :
    wordsFrom word (c :: rest) = wordsFrom (c :: word) rest := by
  rw [wordsFrom, if_neg (by simp [hc])]

theorem wordsFrom_eq_splitOnPPrepend (word cs : List Char) :
    wordsFrom word cs = (cs.splitOnPPrepend isBlank word).filter (· ≠ []) := by
  induction cs generalizing word with
  | nil => cases word <;> simp [wordsFrom]
  | cons c rest ih =>
    rw [wordsFrom, List.splitOnPPrepend_cons_eq_if, ih, ih]
    cases word <;> split_ifs <;> simp_all

/-- Words are the nonempty pieces between blank characters. -/
theorem wordChars_eq_splitOnP (cs : List Char) :
    wordChars cs = (cs.splitOnP isBlank).filter (· ≠ []) :=
  wordsFrom_eq_splitOnPPrepend [] cs

theorem wordsFrom_ne_nil (hword : word ≠ []) : wordsFrom word cs ≠ [] := by
  induction cs generalizing word with
  | nil => simpa [wordsFrom] using hword
  | cons c rest ih =>
    cases hc : isBlank c with
    | true => simp [wordsFrom_cons_blank hc hword]
    | false =>
      rw [wordsFrom_cons hc]
      exact ih (List.cons_ne_nil c word)

theorem isWord_reverse (hne : begun ≠ []) (hbegun : ∀ c ∈ begun, isBlank c = false) :
    IsWord begun.reverse :=
  ⟨List.reverse_ne_nil_iff.mpr hne, fun c hc => hbegun c (List.mem_reverse.mp hc)⟩

theorem isWord_of_mem_wordsFrom (hbegun : ∀ c ∈ begun, isBlank c = false)
    (h : word ∈ wordsFrom begun cs) : IsWord word := by
  induction cs generalizing begun with
  | nil =>
    by_cases hne : begun = []
    · rw [hne] at h
      cases h
    · rw [wordsFrom, if_neg (by simpa using hne), List.mem_singleton] at h
      exact h ▸ isWord_reverse hne hbegun
  | cons c rest ih =>
    cases hc : isBlank c with
    | false =>
      rw [wordsFrom_cons hc] at h
      exact ih (List.forall_mem_cons.mpr ⟨hc, hbegun⟩) h
    | true =>
      by_cases hne : begun = []
      · rw [hne, wordsFrom_nil_cons_blank hc] at h
        exact ih (List.forall_mem_nil _) h
      · rw [wordsFrom_cons_blank hc hne, List.mem_cons] at h
        rcases h with rfl | h
        · exact isWord_reverse hne hbegun
        · exact ih (List.forall_mem_nil _) h

theorem isWord_of_mem_wordChars (h : word ∈ wordChars cs) : IsWord word :=
  isWord_of_mem_wordsFrom (List.forall_mem_nil _) h

/-! ### Words of texts without blank ends -/

theorem wordChars_dropWhile (cs : List Char) : wordChars (cs.dropWhile isBlank) = wordChars cs := by
  induction cs with
  | nil => rfl
  | cons c rest ih =>
    cases hc : isBlank c with
    | true =>
      rw [List.dropWhile_cons_of_pos hc, ih]
      exact (wordsFrom_nil_cons_blank hc).symm
    | false => rw [List.dropWhile_cons_of_neg (by simp [hc])]

theorem wordsFrom_concat_blank (hc : isBlank c = true) (word cs : List Char) :
    wordsFrom word (cs ++ [c]) = wordsFrom word cs := by
  induction cs generalizing word with
  | nil => cases word <;> simp [wordsFrom, hc]
  | cons d rest ih => rw [List.cons_append, wordsFrom, wordsFrom, ih, ih]

theorem wordChars_reverse_dropWhile (cs : List Char) :
    wordChars (cs.dropWhile isBlank).reverse = wordChars cs.reverse := by
  induction cs with
  | nil => rfl
  | cons c rest ih =>
    cases hc : isBlank c with
    | true =>
      rw [List.dropWhile_cons_of_pos hc, ih, List.reverse_cons]
      exact (wordsFrom_concat_blank hc [] _).symm
    | false => rw [List.dropWhile_cons_of_neg (by simp [hc])]

/-- Trimming changes no word. -/
theorem wordChars_trimChars (cs : List Char) : wordChars (trimChars cs) = wordChars cs := by
  unfold trimChars trimBy
  rw [wordChars_reverse_dropWhile, List.reverse_reverse, wordChars_dropWhile]

/-- The word begun and what is still to be squeezed make up the words with spaces between them,
where the text does not end in a blank character. -/
theorem reverse_append_squeeze (begun cs : List Char)
    (hbegun : begun ≠ [] ∨ ∀ c ∈ cs.head?, isBlank c = false)
    (hlast : ∀ c ∈ cs.getLast?, isBlank c = false) :
    begun.reverse ++ squeeze cs = [' '].intercalate (wordsFrom begun cs) := by
  fun_induction squeeze cs generalizing begun with
  | case1 => cases begun <;> simp [wordsFrom]
  | case2 c hc => exact absurd (hlast c rfl) (by simp [hc])
  | case3 c hc => simp [wordsFrom, hc]
  | case4 c d rest hc hd ih =>
    have hne := hbegun.resolve_right fun h => absurd (h c rfl) (by simp [hc])
    -- the first blank character of a run ends the word, and so would the second one
    rw [ih begun (.inl hne) hlast, wordsFrom_cons_blank hc hne, wordsFrom_cons_blank hd hne]
    congr 2
    exact (wordsFrom_nil_cons_blank hd).symm
  | case5 c d rest hc hd ih =>
    have hne := hbegun.resolve_right fun h => absurd (h c rfl) (by simp [hc])
    have hd : isBlank d = false := by simpa using hd
    -- the run ends here, and the space that is left of it stands before the word that `d` begins
    have hrest : squeeze (d :: rest) = [' '].intercalate (wordsFrom [] (d :: rest)) :=
      ih [] (.inr (by simpa using hd)) hlast
    have hwords : wordsFrom [] (d :: rest) ≠ [] := by
      rw [wordsFrom_cons hd]
      exact wordsFrom_ne_nil (List.cons_ne_nil d [])
    obtain ⟨next, more, hcons⟩ := List.exists_cons_of_ne_nil hwords
    rw [wordsFrom_cons_blank hc hne, hrest, hcons, List.intercalate_cons_cons, List.append_assoc,
      List.singleton_append]
  | case6 c d rest hc ih =>
    have hc : isBlank c = false := by simpa using hc
    rw [wordsFrom_cons hc, ← ih (c :: begun) (.inl (List.cons_ne_nil c begun)) hlast,
      List.reverse_cons, List.append_assoc, List.singleton_append]

/-- Squeezed text without blank ends is its words with a space between neighbours. -/
theorem squeeze_trimChars (cs : List Char) :
    squeeze (trimChars cs) = [' '].intercalate (wordChars cs) := by
  have hhead : ∀ c ∈ (trimChars cs).head?, isBlank c = false := by
    intro c hc
    obtain ⟨rest, hcons⟩ := List.head?_eq_some_iff.mp hc
    exact head_trimBy hcons
  rw [← wordChars_trimChars cs]
  exact reverse_append_squeeze [] (trimChars cs) (.inr hhead) fun c hc => getLast_trimBy hc

/-! ### Words with spaces between them -/

theorem wordsFrom_append (hword : ∀ c ∈ word, isBlank c = false) (begun rest : List Char) :
    wordsFrom begun (word ++ rest) = wordsFrom (word.reverse ++ begun) rest := by
  induction word generalizing begun with
  | nil => rfl
  | cons c word ih =>
    rw [List.forall_mem_cons] at hword
    rw [List.cons_append, wordsFrom_cons hword.1, ih hword.2, List.reverse_cons, List.append_assoc,
      List.singleton_append]

/-- The words of words with spaces between them are these words. -/
theorem wordChars_intercalate (h : ∀ word ∈ parts, IsWord word) :
    wordChars ([' '].intercalate parts) = parts := by
  induction parts with
  | nil => rfl
  | cons word parts ih =>
    rw [List.forall_mem_cons] at h
    obtain ⟨⟨hne, hword⟩, hparts⟩ := h
    have hreverse : word.reverse ≠ [] := List.reverse_ne_nil_iff.mpr hne
    cases parts with
    | nil =>
      rw [List.intercalate_singleton, ← List.append_nil word, wordChars, wordsFrom_append hword]
      simp [wordsFrom, hne]
    | cons next parts =>
      rw [List.intercalate_cons_cons, List.append_assoc, List.singleton_append, wordChars,
        wordsFrom_append hword, List.append_nil, wordsFrom_cons_blank (by decide) hreverse,
        List.reverse_reverse]
      exact congrArg _ (ih hparts)

theorem intercalate_ne_nil (h : IsWord word) (parts : List (List Char)) :
    [' '].intercalate (word :: parts) ≠ [] := by
  cases parts <;> simp [h.1]

theorem isBlank_head_intercalate (h : ∀ word ∈ parts, IsWord word) :
    ∀ c ∈ ([' '].intercalate parts).head?, isBlank c = false := by
  intro c hc
  cases parts with
  | nil => cases hc
  | cons word parts =>
    rw [List.forall_mem_cons] at h
    obtain ⟨first, word, rfl⟩ := List.exists_cons_of_ne_nil h.1.1
    have hfirst : first = c := by cases parts <;> simpa using hc
    exact hfirst ▸ h.1.2 first (List.mem_cons_self ..)

theorem isBlank_getLast_intercalate (h : ∀ word ∈ parts, IsWord word) :
    ∀ c ∈ ([' '].intercalate parts).getLast?, isBlank c = false := by
  induction parts with
  | nil => exact fun c hc => nomatch hc
  | cons word parts ih =>
    rw [List.forall_mem_cons] at h
    cases parts with
    | nil =>
      rw [List.intercalate_singleton]
      exact fun c hc => h.1.2 c (List.mem_of_getLast? hc)
    | cons next parts =>
      have hnext := intercalate_ne_nil (h.2 next (List.mem_cons_self ..)) parts
      rw [List.intercalate_cons_cons, List.getLast?_append_of_ne_nil _ hnext]
      exact ih h.2

/-! ### Collapsed texts -/

/-- Where a run of blank characters was there is one space. -/
theorem mem_squeeze (h : c ∈ squeeze cs) : c = ' ' ∨ isBlank c = false := by
  fun_induction squeeze cs with
  | case1 => cases h
  | case2 a ha => exact .inl (List.mem_singleton.mp h)
  | case3 a ha =>
    rw [List.mem_singleton.mp h]
    exact .inr (by simpa using ha)
  | case4 a b rest _ _ ih => exact ih h
  | case5 a b rest _ _ ih =>
    rcases List.mem_cons.mp h with rfl | h
    · exact .inl rfl
    · exact ih h
  | case6 a b rest ha ih =>
    rcases List.mem_cons.mp h with rfl | h
    · exact .inr (by simpa using ha)
    · exact ih h

theorem isBlank_of_isLineBreak (h : isLineBreak c = true) : isBlank c = true := by
  unfold isLineBreak at h
  unfold isBlank
  simp only [Bool.or_eq_true, Bool.and_eq_true, decide_eq_true_eq, beq_iff_eq] at h ⊢
  omega

theorem toList_collapse (s : String) :
    (collapse s).toList = [' '].intercalate (wordChars s.toList) := by
  rw [collapse, String.toList_ofList, squeeze_trimChars]

theorem collapse_eq_join (s : String) : collapse s = join " " (words s) := by
  rw [← String.toList_inj, toList_collapse, join, String.toList_intercalate, words,
    List.map_map]
  congr 1
  exact (List.map_id'' (fun word => String.toList_ofList) _).symm

/-- A collapsed text is made of the words of the text with one space between neighbours, where words
are what is between blank characters.  There is no line break in it and no blank character at
either end, and it stays as it is when it is collapsed. -/
theorem collapse_eq_join_words (s : String) :
    collapse s = join " " (words s) ∧
    words s = ((s.toList.splitOnP isBlank).filter (· ≠ [])).map String.ofList ∧
    (collapse s).toList.any isLineBreak = false ∧
    (collapse s).toList.head?.any isBlank = false ∧
    (collapse s).toList.getLast?.any isBlank = false ∧
    collapse (collapse s) = collapse s := by
  have hwords : ∀ word ∈ wordChars s.toList, IsWord word := fun word => isWord_of_mem_wordChars
  have hspaces : ∀ c ∈ (collapse s).toList, c = ' ' ∨ isBlank c = false := by
    unfold collapse
    rw [String.toList_ofList]
    exact fun c => mem_squeeze
  have hagain : words (collapse s) = words s := by
    unfold words
    rw [toList_collapse, wordChars_intercalate hwords]
  refine ⟨collapse_eq_join s, ?_, ?_, ?_, ?_, ?_⟩
  · rw [words, wordChars_eq_splitOnP]
  · rw [List.any_eq_false]
    intro c hc hbreak
    rcases hspaces c hc with rfl | hblank
    · exact absurd hbreak (by decide)
    · rw [isBlank_of_isLineBreak hbreak] at hblank
      cases hblank
  · rw [toList_collapse, Option.any_eq_false]
    exact isBlank_head_intercalate hwords
  · rw [toList_collapse, Option.any_eq_false]
    exact isBlank_getLast_intercalate hwords
  · rw [collapse_eq_join, hagain, ← collapse_eq_join]

example : collapse " a \u00a0\n\tb\u2028" = "a b" := by decide

end ApiTools.Text
