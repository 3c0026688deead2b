import ApiTools.Document.Json
import ApiTools.Proofs.Naming.Names
import ApiTools.Proofs.Text.Collapsed

/-!
# Texts of one line

`Text.IsOneLine` says that a text has no line feed.  Quoted texts, names and numbers are of one line
whatever they stand for, and so is a collapsed text; cutting, joining and replacing keep it.
-/

namespace ApiTools

namespace Text

variable {s t : String} {c : Char} {cs : List Char}

/-- Is there no line feed in the text? -/
def IsOneLine (s : String) : Prop := '\n' ∉ s.toList

instance : DecidablePred IsOneLine := fun s => inferInstanceAs (Decidable ('\n' ∉ s.toList))

@[simp] theorem isOneLine_append : IsOneLine (s ++ t) ↔ IsOneLine s ∧ IsOneLine t := by
  unfold IsOneLine
  rw [String.toList_append, List.mem_append, not_or]

@[simp] theorem isOneLine_ofList : IsOneLine (String.ofList cs) ↔ '\n' ∉ cs := by
  unfold IsOneLine
  rw [String.toList_ofList]

theorem isOneLine_join {separator : String} {parts : List String} (hseparator : IsOneLine separator)
    (hparts : ∀ part ∈ parts, IsOneLine part) : IsOneLine (join separator parts) := by
  intro hmem
  rcases mem_join hmem with hmem | ⟨part, hpart, hmem⟩
  · exact hseparator hmem
  · exact hparts part hpart hmem

theorem IsOneLine.trim (h : IsOneLine s) : IsOneLine (trim s) := by
  unfold Text.trim trimChars
  rw [isOneLine_ofList]
  exact fun hmem => h (mem_of_mem_trimBy hmem)

theorem isOneLine_collapse (s : String) : IsOneLine (collapse s) := by
  unfold collapse
  rw [isOneLine_ofList]
  intro hmem
  rcases mem_squeeze hmem with h | h
  · cases h
  · revert h
    decide

theorem mem_replaceFrom {old new : List Char} {skip : Nat} (h : c ∈ replaceFrom old new skip cs) :
    c ∈ new ∨ c ∈ cs := by
  fun_induction replaceFrom old new skip cs with
  | case1 => cases h
  | case2 skip a rest ih => exact (ih h).imp_right (List.mem_cons_of_mem _)
  | case3 a rest _ ih =>
    rcases List.mem_append.mp h with h | h
    · exact .inl h
    · exact (ih h).imp_right (List.mem_cons_of_mem _)
  | case4 a rest _ ih =>
    rcases List.mem_cons.mp h with rfl | h
    · exact .inr (List.mem_cons_self ..)
    · exact (ih h).imp_right (List.mem_cons_of_mem _)

theorem IsOneLine.replace (h : IsOneLine s) (old : String) {new : String} (hnew : IsOneLine new) :
    IsOneLine (replace s old new) := by
  unfold Text.replace
  rw [isOneLine_ofList]
  intro hmem
  rcases mem_replaceFrom hmem with hmem | hmem
  · exact hnew hmem
  · exact h hmem

/-! ### Quoted texts -/

namespace Quoted

theorem hexDigit_ne_newline {n : Nat} (h : n < 16) : hexDigit n ≠ '\n' := by
  have hdigits : ∀ n < 16, hexDigit n ≠ '\n' := by decide
  exact hdigits n h

/-- The letters of short escapes are letters and signs. -/
theorem ne_newline_of_shortEscape? {letter : Char} (h : shortEscape? c = some letter) :
    letter ≠ '\n' := by
  unfold shortEscape? at h
  split at h <;> cases h <;> decide

theorem newline_not_mem_escape (c : Char) : '\n' ∉ escape c := by
  unfold escape
  split
  · next letter hletter =>
    have hne := ne_newline_of_shortEscape? hletter
    simpa using hne.symm
  · next hnone =>
    have hc : c ≠ '\n' := by
      rintro rfl
      cases hnone
    split_ifs with hlow
    · have hhigh := hexDigit_ne_newline (n := c.toNat / 16) (by omega)
      have hrest := hexDigit_ne_newline (n := c.toNat % 16) (by omega)
      simpa using ⟨hhigh.symm, hrest.symm⟩
    · simpa using hc.symm

theorem newline_not_mem_encodeChars (cs : List Char) : '\n' ∉ encodeChars cs := by
  unfold encodeChars
  intro hmem
  rw [List.cons_append, List.mem_cons, List.mem_append, List.mem_flatMap] at hmem
  rcases hmem with h | ⟨c, -, h⟩ | h
  · cases h
  · exact newline_not_mem_escape c h
  · cases List.mem_singleton.mp h

theorem isOneLine_encode (s : String) : IsOneLine (encode s) :=
  isOneLine_ofList.mpr (newline_not_mem_encodeChars s.toList)

end Quoted

end Text

/-! ### Names -/

namespace Naming

open Text

theorem newline_not_identifierChar : isIdentifierChar '\n' = false := by decide

theorem isOneLine_identifier (s : String) : IsOneLine (identifier s) := by
  unfold identifier
  rw [isOneLine_ofList]
  intro hmem
  obtain ⟨c, -, hc⟩ := List.mem_map.mp hmem
  have hchar := isIdentifierChar_identifierChar c
  rw [hc] at hchar
  cases hchar

theorem IsName.isOneLine {s : String} (h : IsName s) : IsOneLine s :=
  h.not_mem newline_not_identifierChar

end Naming

/-! ### Numbers -/

theorem newline_not_mem_toDigits (n : Nat) : '\n' ∉ Nat.toDigits 10 n :=
  fun hmem => absurd (Nat.isDigit_of_mem_toDigits (by decide) (by decide) hmem) (by decide)

theorem isOneLine_intText (i : Int) : Text.IsOneLine (intText i) := by
  unfold intText natText
  split_ifs
  · exact Text.isOneLine_append.mpr
      ⟨by decide, Text.isOneLine_ofList.mpr (newline_not_mem_toDigits _)⟩
  · exact Text.isOneLine_ofList.mpr (newline_not_mem_toDigits _)

namespace DecimalFormat

variable {format : DecimalFormat} {digits : List Char} {c : Char}

theorem mem_pointed {whole : Nat} (h : c ∈ pointed digits whole) : c = '.' ∨ c ∈ digits := by
  unfold pointed at h
  rw [List.mem_append, List.mem_cons] at h
  rcases h with h | rfl | h
  · exact .inr (List.mem_of_mem_take h)
  · exact .inl rfl
  · exact .inr (List.mem_of_mem_drop h)

theorem newline_not_mem_wholeEnd (format : DecimalFormat) : '\n' ∉ format.wholeEnd := by
  unfold wholeEnd
  split_ifs <;> decide

/-- Besides its digits a decimal has zeros, a point, and an exponent with its sign. -/
theorem newline_not_mem_layOut (h : '\n' ∉ digits) (exponent : Int) :
    '\n' ∉ format.layOut digits exponent := by
  have hpointed : ∀ whole, '\n' ∉ pointed digits whole := by
    intro whole hmem
    rcases mem_pointed hmem with heq | hmem
    · cases heq
    · exact h hmem
  have hzeros : ∀ count, '\n' ∉ List.replicate count '0' := by
    intro count hmem
    cases List.eq_of_mem_replicate hmem
  unfold layOut
  dsimp only
  split_ifs
  · simp [h, hzeros, newline_not_mem_wholeEnd]
  · exact hpointed _
  · simp [h, hzeros]
  all_goals
    have hexponent : ∀ i, '\n' ∉ (intText i).toList := isOneLine_intText
    simp [h, hpointed, hexponent]

theorem isOneLine_write (hnan : Text.IsOneLine format.nanText)
    (hinfinity : Text.IsOneLine format.infinityText)
    (hminus : Text.IsOneLine format.minusInfinityText) (x : Binary64) :
    Text.IsOneLine (format.write x) := by
  cases x with
  | nan => exact hnan
  | infinite negative =>
    cases negative
    · exact hinfinity
    · exact hminus
  | finite negative mantissa scale =>
    have hbody : '\n' ∉ (if mantissa = 0 then '0' :: format.wholeEnd
        else format.layOut (stripZeros (Nat.toDigits 10 (Binary64.shortest mantissa scale).1)
          (Binary64.shortest mantissa scale).2).1
            (stripZeros (Nat.toDigits 10 (Binary64.shortest mantissa scale).1)
              (Binary64.shortest mantissa scale).2).2) := by
      split_ifs
      · simp [newline_not_mem_wholeEnd]
      · refine newline_not_mem_layOut ?_ _
        intro hmem
        unfold stripZeros at hmem
        rw [List.mem_reverse] at hmem
        have hinner := (List.dropWhile_sublist _).subset hmem
        exact newline_not_mem_toDigits _ (List.mem_reverse.mp hinner)
    unfold write
    rw [Text.isOneLine_ofList]
    cases negative
    · exact hbody
    · exact List.not_mem_cons_of_ne_of_not_mem (by decide) hbody

end DecimalFormat

theorem Number.isOneLine_json (n : Number) : Text.IsOneLine n.json := by
  cases n with
  | int i => exact isOneLine_intText i
  | float x => exact DecimalFormat.isOneLine_write (by decide) (by decide) (by decide) x

end ApiTools
