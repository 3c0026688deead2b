import ApiTools.Proofs.Files.Path
import ApiTools.Proofs.Naming.Snake

/-!
# The form of stems

A stem is in snake case and begins with a small letter (`IsStem`).  Whatever a stem is made of, the
parts that are joined are nonempty and hold letters and digits only (`joined_joinParts`); they are
brought to lowercase after that, and another stem is put before a digit (`isStem_stem`).  What is a
stem already is cut into its runs and put together again, so it stays as it is (`stem_of_isStem`).
-/

namespace ApiTools.Naming

open Text

variable {c : Char} {cs ds : List Char} {s lead : String} {p : Char → Bool}

/-- Nonempty runs of small letters and digits, joined by single underscores, with a letter first. -/
structure IsStem (s : String) : Prop where
  runs : IsSnake s
  head : ∃ c rest, s.toList = c :: rest ∧ isAsciiLower c = true

theorem IsStem.joined (h : IsStem s) : Joined isSnakeChar s.toList := isSnake_iff.mp h.runs

/-- A stem is a name. -/
theorem IsStem.isName (h : IsStem s) : IsName s := by
  obtain ⟨c, rest, hcons, hletter⟩ := h.head
  refine ⟨⟨c, rest, hcons, ?_⟩, fun d hd => h.joined.isIdentifierChar_of_mem hd⟩
  exact isLetter_of_isAsciiLower hletter

/-! ### Stems that are made -/

theorem Joined.append_underscore (h : Joined p cs) (h' : Joined p ds) :
    Joined p (cs ++ '_' :: ds) := by
  induction h with
  | last hc => exact .underscore hc h'
  | next hc _ ih => exact .next hc ih
  | underscore hc _ ih => exact .underscore hc ih

/-- The parts of a text that is made of characters of identifiers are letters and digits. -/
theorem joined_joinParts (hs : ∀ c ∈ s.toList, isIdentifierChar c = true) :
    (joinParts s).toList = [] ∨ Joined isAsciiAlphanumeric (joinParts s).toList := by
  have hparts : ∀ part ∈ (split s '_').filter (!·.isEmpty),
      part.toList ≠ [] ∧ ∀ c ∈ part.toList, isAsciiAlphanumeric c = true := by
    intro part hpart
    obtain ⟨hne, hmem⟩ := mem_nonemptyParts hpart
    refine ⟨hne, fun c hc => ?_⟩
    have hc' := hs c (hmem c hc).1
    unfold isIdentifierChar at hc'
    exact (Bool.or_eq_true_iff.mp hc').resolve_right fun h => (hmem c hc).2 (eq_of_beq h)
  unfold joinParts
  generalize (split s '_').filter (!·.isEmpty) = parts at hparts
  rw [toList_join_underscore]
  by_cases hnone : parts = []
  · rw [hnone]
    exact .inl rfl
  · exact .inr (joined_intercalate (by simpa using hnone) (List.forall_mem_map.mpr hparts))

theorem joined_lowercase_joinParts (raw : String) :
    (lowercase (joinParts (identifier raw))).toList = [] ∨
      Joined isSnakeChar (lowercase (joinParts (identifier raw))).toList := by
  have hchars := isIdentifierChar_identifier raw
  rw [lowercase, String.toList_ofList, lowerChars_of_isAscii fun c hc =>
    isAscii_of_isIdentifierChar (isIdentifierChar_joinParts hchars hc)]
  rcases joined_joinParts hchars with hnone | hjoined
  · rw [hnone]
    exact .inl rfl
  · exact .inr (hjoined.map (fun c hc => isSnakeChar_asciiLower hc) (by decide))

theorem isStem_stem (raw : String) (hlead : IsStem lead) : IsStem (stem raw lead) := by
  have hform := joined_lowercase_joinParts raw
  unfold stem
  generalize lowercase (joinParts (identifier raw)) = joined at hform
  dsimp only
  split
  · exact hlead
  · next c rest hcons =>
    have hjoined := hform.resolve_left (by simp [hcons])
    split_ifs with hdigit
    · -- The lead begins with a letter.
      obtain ⟨d, more, hd, hletter⟩ := hlead.head
      refine ⟨isSnake_iff.mpr ?_, d, more ++ '_' :: joined.toList, ?_, hletter⟩
      · rw [String.toList_append, String.toList_append, List.append_assoc]
        exact hlead.joined.append_underscore hjoined
      · rw [String.toList_append, String.toList_append, hd, List.append_assoc]
        rfl
    · exact ⟨isSnake_iff.mpr hjoined, c, rest, hcons, (hcons ▸ hjoined).isAsciiLower_head hdigit⟩

/-! ### Stems that stay as they are -/

/-- What is in snake case is cut at its underscores into its runs, and none of them is empty. -/
theorem joinParts_of_isSnake (h : IsSnake s) : joinParts s = s := by
  obtain ⟨runs, hne, hruns, rfl⟩ := h
  have hfree : ∀ run ∈ runs.map String.toList, '_' ∉ run := by
    rw [List.forall_mem_map]
    intro run hrun hmem
    cases (hruns run hrun).2 '_' hmem
  have hsplit : split (join "_" runs) '_' = runs := by
    unfold split
    rw [toList_join_underscore, splitChars_intercalate (by simpa using hne) hfree, List.map_map]
    simp [Function.comp_def]
  unfold joinParts
  rw [hsplit, List.filter_eq_self.mpr]
  intro run hrun
  simpa [String.isEmpty_iff] using (hruns run hrun).1

theorem stem_of_isStem (h : IsStem s) (lead : String) : stem s lead = s := by
  have hidentifier : identifier s = s := by
    unfold identifier
    rw [h.joined.map_identifierChar, String.ofList_toList]
  have hlower : lowercase s = s := by
    unfold lowercase
    rw [h.joined.lowerChars_eq, String.ofList_toList]
  obtain ⟨c, rest, hcons, hletter⟩ := h.head
  unfold stem
  rw [hidentifier, joinParts_of_isSnake h.runs, hlower]
  dsimp only
  rw [hcons]
  dsimp only
  rw [isAsciiDigit_of_isLetter (isLetter_of_isAsciiLower hletter), if_neg Bool.false_ne_true]

end ApiTools.Naming
