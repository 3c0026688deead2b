import ApiTools.Proofs.Naming.Snake

/-!
# The form of names of functions

The name of a function begins with a small letter, and small letters, digits and single underscores
follow, the last of them no underscore (`IsSnakeName`).  Every operation identifier is given a name
of this form, and those that are their own names are exactly those of this form
(`isSnakeName_functionName`).  The steps that tell words apart put in underscores and change the
case of letters, and only where there are capitals (`splitWords_eq_self`, `splitHumps_eq_self`).
-/

namespace ApiTools.Naming

open Text

variable {c : Char} {cs : List Char} {s : String}

/-- A small letter first, then small letters, digits and underscores, of which none is the last
character and no two are in a row. -/
structure IsSnakeName (s : String) : Prop where
  head : ∃ c rest, s.toList = c :: rest ∧ isAsciiLower c = true
  tidy : IsTidy isSnakeChar s.toList

theorem isSnakeName_iff : IsSnakeName s ↔
    (∃ c rest, s.toList = c :: rest ∧ isAsciiLower c = true) ∧ Joined isSnakeChar s.toList := by
  have hjoined : Joined isSnakeChar s.toList ↔ _ := joined_iff isSnakeChar_underscore
  constructor
  · rintro ⟨⟨c, rest, hcons, hletter⟩, htidy⟩
    exact ⟨⟨c, rest, hcons, hletter⟩, hjoined.mpr ⟨by simp [hcons], htidy⟩⟩
  · exact fun ⟨hhead, hruns⟩ => ⟨hhead, (hjoined.mp hruns).2⟩

/-! ### Names that are made -/

/-- Capitals that are spelled out are small letters with underscores between them. -/
theorem joined_spellOut (hne : cs ≠ []) (hupper : ∀ c ∈ cs, isAsciiUpper c = true) :
    Joined isSnakeChar (spellOut cs) := by
  have hsmall : ∀ c, isAsciiUpper c = true → isSnakeChar (asciiLower c) = true :=
    fun c hc => isSnakeChar_asciiLower (isAsciiAlphanumeric_of_isAsciiUpper hc)
  unfold spellOut
  induction cs with
  | nil => exact absurd rfl hne
  | cons c cs ih =>
    rw [List.forall_mem_cons] at hupper
    cases cs with
    | nil => exact .last (hsmall c hupper.1)
    | cons d cs => exact .underscore (hsmall c hupper.1) (ih (List.cons_ne_nil d cs) hupper.2)

theorem isSnakeChar_or_underscore (h : isIdentifierChar c = true) :
    isSnakeChar (asciiLower c) = true ∨ asciiLower c = '_' := by
  unfold isIdentifierChar at h
  rcases Bool.or_eq_true_iff.mp h with h | h
  · exact .inl (isSnakeChar_asciiLower h)
  · rw [eq_of_beq h]
    exact .inr (by decide)

/-- The words of characters of identifiers are in snake case, if anything is left of them. -/
theorem joined_camelWords (hcs : ∀ c ∈ cs, isIdentifierChar c = true) :
    trimUnderscores (camelWords cs) = [] ∨
      Joined isSnakeChar (trimUnderscores (camelWords cs)) := by
  unfold camelWords
  split_ifs with hspelled
  · simp only [Bool.and_eq_true, Bool.not_eq_true', List.isEmpty_eq_false_iff] at hspelled
    have hjoined := joined_spellOut hspelled.1 (List.all_eq_true.mp hspelled.2)
    rw [hjoined.trimUnderscores_eq isSnakeChar_underscore]
    exact .inr hjoined
  · have hwords : ∀ c ∈ splitHumps (splitWords .outside cs), isIdentifierChar c = true := by
      intro c hc
      rcases mem_splitHumps hc with rfl | hc
      · rfl
      rcases mem_splitWords hc with rfl | hc
      · rfl
      exact hcs c hc
    refine joined_trimUnderscores (fun c hc => ?_) (no_pair_mergeUnderscores _)
    have hlower := mem_mergeUnderscores hc
    rw [lowerChars_of_isAscii fun d hd => isAscii_of_isIdentifierChar (hwords d hd)] at hlower
    obtain ⟨d, hd, rfl⟩ := List.mem_map.mp hlower
    exact isSnakeChar_or_underscore (hwords d hd)

/-- Characters in snake case are a name, after a lead where they begin with a digit. -/
theorem isSnakeName_of_joined {rest : List Char} (h : Joined isSnakeChar (c :: rest)) :
    IsSnakeName
      (String.ofList (if isAsciiDigit c then "op_".toList ++ c :: rest else c :: rest)) := by
  rw [isSnakeName_iff, String.toList_ofList]
  split_ifs with hdigit
  · exact ⟨⟨'o', _, rfl, by decide⟩, .next (by decide) (.underscore (by decide) h)⟩
  · exact ⟨⟨c, rest, rfl, h.isAsciiLower_head hdigit⟩, h⟩

theorem functionName_form (operationId : String) : IsSnakeName (functionName operationId) := by
  have hkept : ∀ c ∈ (operationId.toList.filter (!isBrace ·)).map identifierChar,
      isIdentifierChar c = true :=
    List.forall_mem_map.mpr fun c _ => isIdentifierChar_identifierChar c
  have hform := joined_camelWords hkept
  unfold functionName
  dsimp only
  split
  · show IsSnakeName "operation"
    rw [isSnakeName_iff]
    exact ⟨⟨'o', _, rfl, by decide⟩, joined_of_forall (by decide) (List.all_eq_true.mp (by decide))⟩
  · next c rest htrim =>
    rw [htrim] at hform
    exact isSnakeName_of_joined (hform.resolve_left (List.cons_ne_nil c rest))

/-! ### Names that stay as they are -/

/-- Words are told apart by capitals. -/
theorem splitWords_eq_self (h : ∀ c ∈ cs, isAsciiUpper c = false) (part : WordPart) :
    splitWords part cs = cs := by
  have hstart : ∀ rest : List Char, (∀ c ∈ rest, isAsciiUpper c = false) →
      startsCapitalised rest = false := by
    intro rest hrest
    unfold startsCapitalised
    split
    · next u l more => rw [hrest u (List.mem_cons_self ..), Bool.false_and]
    · rfl
  fun_induction splitWords part cs <;> grind

theorem splitHumps_eq_self (h : ∀ c ∈ cs, isAsciiUpper c = false) : splitHumps cs = cs := by
  fun_induction splitHumps cs <;> grind

theorem camelWords_eq_self (h : Joined isSnakeChar cs) : camelWords cs = cs := by
  have hupper : ∀ c ∈ cs, isAsciiUpper c = false := fun c hc => h.isAsciiUpper_of_mem hc
  obtain ⟨c, rest, rfl, -⟩ := h.exists_head
  have hspelled : (!(c :: rest).isEmpty && (c :: rest).all isAsciiUpper) = false := by
    rw [List.all_cons, hupper c (List.mem_cons_self ..), Bool.false_and, Bool.and_false]
  unfold camelWords
  rw [hspelled, if_neg Bool.false_ne_true, splitWords_eq_self hupper, splitHumps_eq_self hupper,
    h.lowerChars_eq, h.mergeUnderscores_eq isSnakeChar_underscore]

/-- A name of the form is the name of a function that it is given itself. -/
theorem functionName_of_isSnakeName (h : IsSnakeName s) : functionName s = s := by
  obtain ⟨⟨c, rest, hcons, hletter⟩, hjoined⟩ := isSnakeName_iff.mp h
  have hdigit := isAsciiDigit_of_isLetter (isLetter_of_isAsciiLower hletter)
  unfold functionName
  dsimp only
  rw [hjoined.filter_isBrace, hjoined.map_identifierChar, camelWords_eq_self hjoined,
    hjoined.trimUnderscores_eq isSnakeChar_underscore, hcons]
  dsimp only
  rw [hdigit, if_neg Bool.false_ne_true, ← hcons, String.ofList_toList]

/-! ### All names -/

/-- The name of a function begins with a small letter and is made of small letters, digits and
single underscores, the last of them no underscore.  It is the name for itself, and an operation
identifier is its own name exactly where it is of this form. -/
theorem isSnakeName_functionName (operationId : String) :
    IsSnakeName (functionName operationId) ∧
    functionName (functionName operationId) = functionName operationId ∧
    (functionName operationId = operationId ↔ IsSnakeName operationId) := by
  have hform := functionName_form operationId
  exact ⟨hform, functionName_of_isSnakeName hform, fun h => h ▸ hform, functionName_of_isSnakeName⟩

end ApiTools.Naming
