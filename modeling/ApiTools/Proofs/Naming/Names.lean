import ApiTools.Naming.Generated
import ApiTools.Proofs.Text.Pieces
import ApiTools.Proofs.Text.Trimmed
import Mathlib.Tactic.SplitIfs

/-!
# What names of functions and stems look like

Names of functions and stems of modules are `IsName`: a letter of ASCII first, then letters, digits
and underscores (`isName_functionName`, `isName_stem`).  What goes into them has been brought to
characters of identifiers before; the steps after it change the case and the underscores only, and
what begins with an underscore or a digit is given another beginning.
-/

namespace ApiTools

namespace Text

/-! ### ASCII -/

theorem isAscii_of_isIdentifierChar {c : Char} (h : isIdentifierChar c = true) :
    isAscii c = true := by
  unfold isIdentifierChar isAsciiAlphanumeric isAsciiUpper isAsciiLower isAsciiDigit at h
  unfold isAscii
  simp only [Bool.or_eq_true, Bool.and_eq_true, decide_eq_true_eq, beq_iff_eq] at h ⊢
  rcases h with ((h | h) | h) | rfl
  · omega
  · omega
  · omega
  · decide

/-- Only the capital sigma depends on its neighbours, and it is no ASCII character. -/
theorem lowerChars_of_isAscii {cs : List Char} (h : ∀ c ∈ cs, isAscii c = true) :
    lowerChars cs = cs.map asciiLower := by
  have hfrom : ∀ before, lowerFrom before cs = cs.map asciiLower := by
    induction cs with
    | nil => exact fun _ => rfl
    | cons c rest ih =>
      intro before
      have hc : isAscii c = true := h c (List.mem_cons_self ..)
      have hsigma : c ≠ 'Σ' := by
        rintro rfl
        revert hc
        decide
      rw [lowerFrom, if_neg hsigma, lowerChar, if_pos hc,
        ih (fun d hd => h d (List.mem_cons_of_mem _ hd))]
      rfl
  exact hfrom []

/-- There are 128 ASCII characters, so a fact about them can be decided. -/
theorem exists_eq_ofNat_of_isAscii {c : Char} (h : isAscii c = true) :
    ∃ n < 128, c = Char.ofNat n :=
  ⟨c.toNat, of_decide_eq_true h, (Char.ofNat_toNat c).symm⟩

theorem isIdentifierChar_asciiLower {c : Char} (h : isIdentifierChar c = true) :
    isIdentifierChar (asciiLower c) = true := by
  obtain ⟨n, hn, rfl⟩ := exists_eq_ofNat_of_isAscii (isAscii_of_isIdentifierChar h)
  revert n
  decide

theorem asciiLower_ne_underscore {c : Char} (h : isIdentifierChar c = true) (hc : c ≠ '_') :
    asciiLower c ≠ '_' := by
  obtain ⟨n, hn, rfl⟩ := exists_eq_ofNat_of_isAscii (isAscii_of_isIdentifierChar h)
  revert n
  decide

end Text

namespace Naming

open Text

/-! ### Characters of words -/

variable {c : Char} {cs : List Char}

theorem isIdentifierChar_identifierChar (c : Char) : isIdentifierChar (identifierChar c) = true := by
  unfold identifierChar
  split_ifs with h
  · exact h
  · rfl

theorem isIdentifierChar_identifier (raw : String) :
    ∀ c ∈ (identifier raw).toList, isIdentifierChar c = true := by
  intro c hc
  rw [identifier, String.toList_ofList] at hc
  obtain ⟨d, -, rfl⟩ := List.mem_map.mp hc
  exact isIdentifierChar_identifierChar d

theorem mem_mergeUnderscores (h : c ∈ mergeUnderscores cs) : c ∈ cs := by
  fun_induction mergeUnderscores cs with
  | case1 => exact h
  | case2 => exact h
  | case3 a b rest _ ih => exact List.mem_cons_of_mem _ (ih h)
  | case4 a b rest _ ih =>
    rcases List.mem_cons.mp h with rfl | h
    · exact List.mem_cons_self ..
    · exact List.mem_cons_of_mem _ (ih h)

theorem mem_splitWords {part : WordPart} (h : c ∈ splitWords part cs) : c = '_' ∨ c ∈ cs := by
  fun_induction splitWords part cs <;> grind

theorem mem_splitHumps (h : c ∈ splitHumps cs) : c = '_' ∨ c ∈ cs := by
  fun_induction splitHumps cs <;> grind

theorem mem_spellOut (h : c ∈ spellOut cs) : c = '_' ∨ ∃ d ∈ cs, c = asciiLower d := by
  have hmem : ∀ letters : List Char, c ∈ letters.intersperse '_' → c = '_' ∨ c ∈ letters := by
    intro letters hmem
    fun_induction List.intersperse '_' letters <;> grind
  rcases hmem _ h with hc | hc
  · exact .inl hc
  · obtain ⟨d, hd, hdc⟩ := List.mem_map.mp hc
    exact .inr ⟨d, hd, hdc.symm⟩

/-- Words are spelled with characters of identifiers. -/
theorem isIdentifierChar_camelWords (hcs : ∀ c ∈ cs, isIdentifierChar c = true)
    (h : c ∈ camelWords cs) : isIdentifierChar c = true := by
  unfold camelWords at h
  split_ifs at h
  · rcases mem_spellOut h with rfl | ⟨d, hd, rfl⟩
    · rfl
    · exact isIdentifierChar_asciiLower (hcs d hd)
  · have hwords : ∀ d ∈ splitHumps (splitWords .outside cs), isIdentifierChar d = true := by
      intro d hd
      rcases mem_splitHumps hd with rfl | hd
      · rfl
      rcases mem_splitWords hd with rfl | hd
      · rfl
      exact hcs d hd
    have hlower := mem_mergeUnderscores h
    rw [lowerChars_of_isAscii fun d hd => isAscii_of_isIdentifierChar (hwords d hd)] at hlower
    obtain ⟨d, hd, rfl⟩ := List.mem_map.mp hlower
    exact isIdentifierChar_asciiLower (hwords d hd)

/-! ### Names -/

/-- Is the character a letter of ASCII? -/
def isLetter (c : Char) : Bool := isAsciiUpper c || isAsciiLower c

theorem isAsciiDigit_of_isLetter (h : isLetter c = true) : isAsciiDigit c = false := by
  unfold isLetter isAsciiUpper isAsciiLower at h
  unfold isAsciiDigit
  simp only [Bool.or_eq_true, Bool.and_eq_true, decide_eq_true_eq] at h
  rw [Bool.and_eq_false_iff, decide_eq_false_iff_not, decide_eq_false_iff_not]
  omega

/-- A letter of ASCII first, then letters, digits and underscores. -/
structure IsName (s : String) : Prop where
  head : ∃ c rest, s.toList = c :: rest ∧ isLetter c = true
  chars : ∀ c ∈ s.toList, isIdentifierChar c = true

theorem isName_iff {s : String} :
    IsName s ↔ s.toList.head?.any isLetter = true ∧ s.toList.all isIdentifierChar = true := by
  rw [List.all_eq_true]
  constructor
  · rintro ⟨⟨c, rest, hs, hletter⟩, hchars⟩
    refine ⟨?_, hchars⟩
    rw [hs]
    exact hletter
  · rintro ⟨hletter, hchars⟩
    obtain ⟨c, hc, hletter⟩ := (Option.any_eq_true _ _).mp hletter
    obtain ⟨rest, hs⟩ := List.head?_eq_some_iff.mp hc
    exact ⟨⟨c, rest, hs, hletter⟩, hchars⟩

instance : DecidablePred IsName := fun _ => decidable_of_iff _ isName_iff.symm

theorem IsName.not_mem {s : String} (h : IsName s) (hc : isIdentifierChar c = false) :
    c ∉ s.toList := by
  intro hmem
  rw [h.chars c hmem] at hc
  cases hc

/-- A name goes on with characters of identifiers. -/
theorem IsName.append {s t : String} (h : IsName s)
    (ht : ∀ c ∈ t.toList, isIdentifierChar c = true) : IsName (s ++ t) := by
  obtain ⟨c, rest, hhead, hletter⟩ := h.head
  constructor
  · refine ⟨c, rest ++ t.toList, ?_, hletter⟩
    rw [String.toList_append, hhead, List.cons_append]
  · rw [String.toList_append, List.forall_mem_append]
    exact ⟨h.chars, ht⟩

theorem isLetter_of_isIdentifierChar (h : isIdentifierChar c = true) (hdigit : isAsciiDigit c = false)
    (hunderscore : (c == '_') = false) : isLetter c = true := by
  unfold isIdentifierChar isAsciiAlphanumeric at h
  rw [hdigit, hunderscore, Bool.or_false, Bool.or_false] at h
  exact h

/-- Characters of identifiers that do not begin with an underscore are a name, after a lead where
they begin with a digit. -/
theorem isName_of_cons {lead : String} (hlead : IsName lead) {rest : List Char}
    (hcs : ∀ d ∈ c :: rest, isIdentifierChar d = true) (hunderscore : (c == '_') = false) :
    IsName (String.ofList (if isAsciiDigit c then lead.toList ++ c :: rest else c :: rest)) := by
  split_ifs with hdigit
  · rw [String.ofList_append, String.ofList_toList]
    apply hlead.append
    rwa [String.toList_ofList]
  · rw [Bool.not_eq_true] at hdigit
    refine ⟨⟨c, rest, String.toList_ofList, ?_⟩, ?_⟩
    · exact isLetter_of_isIdentifierChar (hcs c (List.mem_cons_self ..)) hdigit hunderscore
    · intro d hd
      rw [String.toList_ofList] at hd
      exact hcs d hd

theorem isName_functionName (operationId : String) : IsName (functionName operationId) := by
  have hkept : ∀ c ∈ (operationId.toList.filter (!isBrace ·)).map identifierChar,
      isIdentifierChar c = true := by
    intro c hc
    obtain ⟨d, -, rfl⟩ := List.mem_map.mp hc
    exact isIdentifierChar_identifierChar d
  unfold functionName
  dsimp only
  split
  · show IsName "operation"
    decide
  · next c rest htrim =>
    have hlead : IsName "op_" := by decide
    refine isName_of_cons hlead ?_ (head_trimBy (p := (· == '_')) htrim)
    intro d hd
    rw [← htrim] at hd
    exact isIdentifierChar_camelWords hkept (mem_of_mem_trimBy hd)

/-! ### Stems -/

theorem isIdentifierChar_joinParts {s : String} (hs : ∀ c ∈ s.toList, isIdentifierChar c = true)
    (h : c ∈ (joinParts s).toList) : isIdentifierChar c = true := by
  rcases mem_join h with hc | ⟨part, hpart, hc⟩
  · have hsingle : c = '_' := by simpa using hc
    rw [hsingle]
    rfl
  · exact hs c (mem_split (List.mem_filter.mp hpart).1 hc).1

/-- The parts that are joined are not empty, and they hold characters of the text, but no
underscores. -/
theorem mem_nonemptyParts {s part : String} (h : part ∈ (split s '_').filter (!·.isEmpty)) :
    part.toList ≠ [] ∧ ∀ c ∈ part.toList, c ∈ s.toList ∧ c ≠ '_' := by
  obtain ⟨hsplit, hempty⟩ := List.mem_filter.mp h
  refine ⟨?_, fun c hc => mem_split hsplit hc⟩
  intro hnil
  rw [String.toList_eq_nil_iff] at hnil
  subst hnil
  revert hempty
  decide

/-- Joined parts do not begin with an underscore, because no part is empty. -/
theorem head_joinParts {s : String} {rest : List Char} (h : (joinParts s).toList = c :: rest) :
    c ≠ '_' := by
  unfold joinParts at h
  have hparts : ∀ part ∈ (split s '_').filter (!·.isEmpty),
      part.toList ≠ [] ∧ ∀ d ∈ part.toList, d ≠ '_' :=
    fun part hpart => (mem_nonemptyParts hpart).imp_right fun hmem d hd => (hmem d hd).2
  generalize (split s '_').filter (!·.isEmpty) = parts at h hparts
  cases parts with
  | nil => simp [join] at h
  | cons first others =>
    obtain ⟨hne, hfirst⟩ := hparts first (List.mem_cons_self ..)
    obtain ⟨d, more, hd⟩ := List.exists_cons_of_ne_nil hne
    have hhead : ∃ tail, (join "_" (first :: others)).toList = d :: tail := by
      cases others with
      | nil => exact ⟨more, by simp [join, hd]⟩
      | cons second others => exact ⟨_, by rw [join_cons_cons, hd]; rfl⟩
    obtain ⟨tail, htail⟩ := hhead
    rw [htail, List.cons.injEq] at h
    rw [← h.1]
    exact hfirst d (by rw [hd]; exact List.mem_cons_self ..)

theorem isName_stem (raw : String) {lead : String} (hlead : IsName lead) :
    IsName (stem raw lead) := by
  have hjoined : ∀ c ∈ (joinParts (identifier raw)).toList, isIdentifierChar c = true :=
    fun c => isIdentifierChar_joinParts (isIdentifierChar_identifier raw)
  have hlower : (lowercase (joinParts (identifier raw))).toList
      = (joinParts (identifier raw)).toList.map asciiLower := by
    rw [lowercase, String.toList_ofList,
      lowerChars_of_isAscii fun c hc => isAscii_of_isIdentifierChar (hjoined c hc)]
  have hchars : ∀ c ∈ (lowercase (joinParts (identifier raw))).toList,
      isIdentifierChar c = true := by
    intro c hc
    rw [hlower] at hc
    obtain ⟨d, hd, rfl⟩ := List.mem_map.mp hc
    exact isIdentifierChar_asciiLower (hjoined d hd)
  unfold stem
  dsimp only
  split
  · exact hlead
  · next c rest hcons =>
    -- The parts are not empty, so that the first of their characters is no underscore.
    have hunderscore : (c == '_') = false := by
      rw [hlower] at hcons
      obtain ⟨d, more, hd, rfl, -⟩ := List.map_eq_cons_iff.mp hcons
      rw [beq_eq_false_iff_ne]
      exact asciiLower_ne_underscore (hjoined d (hd ▸ List.mem_cons_self ..)) (head_joinParts hd)
    have hleadUnderscore : IsName (lead ++ "_") :=
      hlead.append (List.all_eq_true.mp (by decide))
    have hname := isName_of_cons hleadUnderscore (hcons ▸ hchars) hunderscore
    rw [← hcons] at hname
    split_ifs at hname ⊢
    · rwa [← String.toList_append, String.ofList_toList] at hname
    · rwa [String.ofList_toList] at hname

end Naming

end ApiTools
