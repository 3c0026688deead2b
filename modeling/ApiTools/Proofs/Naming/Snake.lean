import ApiTools.Proofs.Naming.Names
import ApiTools.Proofs.Naming.Words

/-!
# Snake case

`IsSnake` is the form of a text in snake case: nonempty runs of small letters and digits, joined by
single underscores.  The snake case of an ASCII text is of this form, or empty, and it has the
letters and digits of the text in their order (`isSnake_snakeCase`).  For each character the pass
writes an underscore or none, and then the character if it is a letter or a digit
(`exists_snakeFrom_cons`), whatever it has written and read before; so merging and trimming the
underscores gives the form, and what has it already passes unchanged (`snakeFrom_of_joined`).
-/

namespace ApiTools

namespace Text

variable {c : Char}

theorem isUpper_of_isAscii (h : isAscii c = true) : isUpper c = isAsciiUpper c := if_pos h

theorem lowerChar_of_isAscii (h : isAscii c = true) : lowerChar c = [asciiLower c] := if_pos h

theorem isAlphanumeric_of_isAscii (h : isAscii c = true) :
    isAlphanumeric c = isAsciiAlphanumeric c := by
  unfold isAlphanumeric isAlphabetic isNumeric
  rw [if_pos h, if_pos h]
  rfl

theorem asciiLower_of_not_upper (h : isAsciiUpper c = false) : asciiLower c = c :=
  if_neg (by rw [h]; decide)

end Text

namespace Naming

open Text

variable {c : Char} {cs : List Char} {s : String} {last : Option Char} {lower : Bool}

/-! ### Small letters and digits -/

/-- Is the character a letter `a` to `z` or a digit? -/
def isSnakeChar (c : Char) : Bool := isAsciiLower c || isAsciiDigit c

theorem isIdentifierChar_of_isSnakeChar (h : isSnakeChar c = true) : isIdentifierChar c = true := by
  unfold isSnakeChar at h
  unfold isIdentifierChar isAsciiAlphanumeric
  rw [Bool.or_assoc (isAsciiUpper c), h, Bool.or_true]
  rfl

theorem isAscii_of_isSnakeChar (h : isSnakeChar c = true) : isAscii c = true :=
  isAscii_of_isIdentifierChar (isIdentifierChar_of_isSnakeChar h)

theorem isAsciiUpper_of_isSnakeChar (h : isSnakeChar c = true) : isAsciiUpper c = false := by
  obtain ⟨n, hn, rfl⟩ := exists_eq_ofNat_of_isAscii (isAscii_of_isSnakeChar h)
  revert n
  decide

theorem isAsciiAlphanumeric_of_isAsciiUpper (h : isAsciiUpper c = true) :
    isAsciiAlphanumeric c = true := by
  unfold isAsciiAlphanumeric
  rw [h]
  rfl

theorem isAsciiAlphanumeric_of_isSnakeChar (h : isSnakeChar c = true) :
    isAsciiAlphanumeric c = true := by
  obtain ⟨n, hn, rfl⟩ := exists_eq_ofNat_of_isAscii (isAscii_of_isSnakeChar h)
  revert n
  decide

theorem isSnakeChar_asciiLower (h : isAsciiAlphanumeric c = true) :
    isSnakeChar (asciiLower c) = true := by
  have hname : isIdentifierChar c = true := by
    unfold isIdentifierChar
    rw [h]
    rfl
  obtain ⟨n, hn, rfl⟩ := exists_eq_ofNat_of_isAscii (isAscii_of_isIdentifierChar hname)
  revert n
  decide

theorem isLetter_of_isAsciiLower (h : isAsciiLower c = true) : isLetter c = true := by
  unfold isLetter
  rw [h, Bool.or_true]

theorem isSnakeChar_underscore : isSnakeChar '_' = false := by decide

theorem ne_underscore_of_isSnakeChar (h : isSnakeChar c = true) : c ≠ '_' := by
  rintro rfl
  cases h

/-! ### The form -/

/-- Nonempty runs of small letters and digits, joined by single underscores. -/
def IsSnake (s : String) : Prop :=
  ∃ runs : List String, runs ≠ [] ∧
    (∀ run ∈ runs, run ≠ "" ∧ ∀ c ∈ run.toList, isSnakeChar c = true) ∧ s = join "_" runs

theorem toList_join_underscore (runs : List String) :
    (join "_" runs).toList = ['_'].intercalate (runs.map String.toList) :=
  String.toList_intercalate

theorem isSnake_iff : IsSnake s ↔ Joined isSnakeChar s.toList := by
  rw [joined_iff_exists_runs]
  constructor
  · rintro ⟨runs, hne, hruns, rfl⟩
    refine ⟨runs.map String.toList, by simpa using hne, ?_, toList_join_underscore runs⟩
    rw [List.forall_mem_map]
    exact fun run hrun => ⟨fun h => (hruns run hrun).1 (String.toList_eq_nil_iff.mp h),
      (hruns run hrun).2⟩
  · rintro ⟨runs, hne, hruns, hs⟩
    refine ⟨runs.map String.ofList, by simpa using hne, ?_, ?_⟩
    · rw [List.forall_mem_map]
      intro run hrun
      rw [String.toList_ofList]
      refine ⟨fun h => (hruns run hrun).1 ?_, (hruns run hrun).2⟩
      rw [← String.toList_ofList (l := run), h]
      rfl
    · rw [← String.toList_inj, toList_join_underscore, hs, List.map_map]
      simp [Function.comp_def]

/-! ### Characters in snake case -/

theorem Joined.isAsciiLower_head {rest : List Char} (h : Joined isSnakeChar (c :: rest))
    (hdigit : ¬ isAsciiDigit c = true) : isAsciiLower c = true := by
  obtain ⟨d, more, hcons, hd⟩ := h.exists_head
  obtain ⟨rfl, -⟩ := List.cons.inj hcons
  rw [isSnakeChar, Bool.or_eq_true_iff] at hd
  exact hd.resolve_right hdigit

theorem Joined.isIdentifierChar_of_mem (h : Joined isSnakeChar cs) (hc : c ∈ cs) :
    isIdentifierChar c = true := by
  rcases h.mem hc with hc | rfl
  · exact isIdentifierChar_of_isSnakeChar hc
  · rfl

theorem Joined.isAsciiUpper_of_mem (h : Joined isSnakeChar cs) (hc : c ∈ cs) :
    isAsciiUpper c = false := by
  rcases h.mem hc with hc | rfl
  · exact isAsciiUpper_of_isSnakeChar hc
  · rfl

theorem Joined.lowerChars_eq (h : Joined isSnakeChar cs) : lowerChars cs = cs := by
  rw [lowerChars_of_isAscii fun _ hc => isAscii_of_isIdentifierChar (h.isIdentifierChar_of_mem hc)]
  exact (List.map_congr_left fun _ hc => asciiLower_of_not_upper (h.isAsciiUpper_of_mem hc)).trans
    (List.map_id' cs)

theorem Joined.map_identifierChar (h : Joined isSnakeChar cs) : cs.map identifierChar = cs :=
  (List.map_congr_left fun _ hc => if_pos (h.isIdentifierChar_of_mem hc)).trans (List.map_id' cs)

theorem isBrace_of_isIdentifierChar (h : isIdentifierChar c = true) : isBrace c = false := by
  obtain ⟨n, hn, rfl⟩ := exists_eq_ofNat_of_isAscii (isAscii_of_isIdentifierChar h)
  revert n
  decide

theorem Joined.filter_isBrace (h : Joined isSnakeChar cs) : cs.filter (!isBrace ·) = cs := by
  rw [List.filter_eq_self]
  intro c hc
  rw [isBrace_of_isIdentifierChar (h.isIdentifierChar_of_mem hc)]
  rfl

/-! ### The pass over the characters -/

/-- What the pass writes for one character: an underscore or none, and then the character itself in
lowercase if it is a letter or a digit. -/
theorem exists_snakeFrom_cons (h : isAscii c = true) (last : Option Char) (lower : Bool)
    (rest : List Char) : ∃ mark last' lower', (mark = [] ∨ mark = ['_']) ∧
      snakeFrom last lower (c :: rest)
        = mark ++ ((if isAsciiAlphanumeric c then [asciiLower c] else [])
          ++ snakeFrom last' lower' rest) := by
  rw [snakeFrom, isUpper_of_isAscii h, isAlphanumeric_of_isAscii h, lowerChar_of_isAscii h]
  by_cases hupper : isAsciiUpper c = true
  · -- A capital begins a word where a small letter was read before it.
    rw [if_pos hupper, if_pos (isAsciiAlphanumeric_of_isAsciiUpper hupper)]
    refine ⟨if lower then ['_'] else [], _, _, ?_, List.append_assoc ..⟩
    cases lower
    · exact .inl rfl
    · exact .inr rfl
  rw [if_neg hupper]
  rw [Bool.not_eq_true] at hupper
  by_cases halnum : isAsciiAlphanumeric c = true
  · rw [if_pos halnum, if_pos halnum, asciiLower_of_not_upper hupper]
    exact ⟨[], _, _, .inl rfl, rfl⟩
  · rw [if_neg halnum, if_neg halnum]
    split_ifs
    · exact ⟨[], _, _, .inl rfl, rfl⟩
    · exact ⟨['_'], _, _, .inr rfl, rfl⟩
    · exact ⟨[], _, _, .inl rfl, rfl⟩

/-- Small letters, digits and underscores are written. -/
theorem mem_snakeFrom (hascii : ∀ d ∈ cs, isAscii d = true) (h : c ∈ snakeFrom last lower cs) :
    isSnakeChar c = true ∨ c = '_' := by
  induction cs generalizing last lower with
  | nil => cases h
  | cons d rest ih =>
    rw [List.forall_mem_cons] at hascii
    obtain ⟨mark, last', lower', hmark, hstep⟩ := exists_snakeFrom_cons hascii.1 last lower rest
    rw [hstep, List.mem_append, List.mem_append] at h
    rcases h with h | h | h
    · rcases hmark with rfl | rfl
      · cases h
      · exact .inr (List.mem_singleton.mp h)
    · split_ifs at h with halnum
      · rw [List.mem_singleton.mp h]
        exact .inl (isSnakeChar_asciiLower halnum)
      · cases h
    · exact ih hascii.2 h

/-- The letters and digits are written, in lowercase and in their order. -/
theorem filter_snakeFrom (hascii : ∀ d ∈ cs, isAscii d = true) :
    (snakeFrom last lower cs).filter isSnakeChar
      = (cs.filter isAsciiAlphanumeric).map asciiLower := by
  induction cs generalizing last lower with
  | nil => rfl
  | cons d rest ih =>
    rw [List.forall_mem_cons] at hascii
    obtain ⟨mark, last', lower', hmark, hstep⟩ := exists_snakeFrom_cons hascii.1 last lower rest
    have hnone : mark.filter isSnakeChar = [] := by rcases hmark with rfl | rfl <;> rfl
    rw [hstep, List.filter_append, List.filter_append, hnone, ih hascii.2, List.nil_append]
    split_ifs with halnum
    · rw [List.filter_cons_of_pos (isSnakeChar_asciiLower halnum),
        List.filter_cons_of_pos halnum]
      rfl
    · rw [List.filter_cons_of_neg halnum]
      rfl

/-- A small letter or a digit is written as it is. -/
theorem snakeFrom_cons_of_isSnakeChar (h : isSnakeChar c = true) (last : Option Char) (lower : Bool)
    (rest : List Char) :
    snakeFrom last lower (c :: rest) = c :: snakeFrom (some c) (isLower c) rest := by
  have hascii := isAscii_of_isSnakeChar h
  rw [snakeFrom, isUpper_of_isAscii hascii, isAsciiUpper_of_isSnakeChar h,
    if_neg Bool.false_ne_true, isAlphanumeric_of_isAscii hascii,
    if_pos (isAsciiAlphanumeric_of_isSnakeChar h)]

/-- What is in snake case passes unchanged. -/
theorem snakeFrom_of_joined (h : Joined isSnakeChar cs) (last : Option Char) (lower : Bool) :
    snakeFrom last lower cs = cs := by
  induction h generalizing last lower with
  | last hc => rw [snakeFrom_cons_of_isSnakeChar hc, snakeFrom]
  | next hc _ ih => rw [snakeFrom_cons_of_isSnakeChar hc, ih]
  | @underscore c cs hc _ ih =>
    -- The run before the separator was written last, so an underscore is written after it.
    have hnone : ¬ (((some c).isNone || some c = some '_') = true) := by
      simpa using ne_underscore_of_isSnakeChar hc
    rw [snakeFrom_cons_of_isSnakeChar hc, snakeFrom, if_neg (by decide), if_neg (by decide),
      if_pos (by decide), if_neg hnone, ih]

/-! ### Snake case of a text -/

theorem joined_snakeChars (hascii : ∀ d ∈ cs, isAscii d = true) :
    snakeChars cs = [] ∨ Joined isSnakeChar (snakeChars cs) :=
  joined_trimUnderscores (fun _ hc => mem_snakeFrom hascii (mem_mergeUnderscores hc))
    (no_pair_mergeUnderscores _)

theorem snakeChars_of_joined (h : Joined isSnakeChar cs) : snakeChars cs = cs := by
  unfold snakeChars
  rw [snakeFrom_of_joined h, h.mergeUnderscores_eq isSnakeChar_underscore,
    h.trimUnderscores_eq isSnakeChar_underscore]

theorem filter_snakeChars (hascii : ∀ d ∈ cs, isAscii d = true) :
    (snakeChars cs).filter isSnakeChar = (cs.filter isAsciiAlphanumeric).map asciiLower := by
  unfold snakeChars
  rw [filter_trimUnderscores isSnakeChar_underscore, filter_mergeUnderscores isSnakeChar_underscore,
    filter_snakeFrom hascii]

theorem toList_snakeCase (s : String) : (snakeCase s).toList = snakeChars s.toList :=
  String.toList_ofList

/-- The snake case of an ASCII text is empty or in snake case. -/
theorem snakeCase_form (hascii : ∀ c ∈ s.toList, isAscii c = true) :
    snakeCase s = "" ∨ IsSnake (snakeCase s) := by
  rw [isSnake_iff, toList_snakeCase, ← String.toList_eq_nil_iff, toList_snakeCase]
  exact joined_snakeChars hascii

/-- What is in snake case stays as it is. -/
theorem snakeCase_of_isSnake (h : s = "" ∨ IsSnake s) : snakeCase s = s := by
  rcases h with rfl | h
  · rfl
  · rw [← String.toList_inj, toList_snakeCase]
    exact snakeChars_of_joined (isSnake_iff.mp h)

/-- The snake case of an ASCII text is empty or nonempty runs of small letters and digits, joined by
single underscores; these are the letters and digits of the text.  It is its own snake case, and its
words with capitals are those of the text. -/
theorem isSnake_snakeCase (s : String) (hascii : ∀ c ∈ s.toList, isAscii c = true) :
    (snakeCase s = "" ∨ IsSnake (snakeCase s)) ∧
    (snakeCase s).toList.filter isSnakeChar = (s.toList.filter isAsciiAlphanumeric).map asciiLower ∧
    snakeCase (snakeCase s) = snakeCase s ∧
    upperCamel (snakeCase s) = upperCamel s := by
  have hform := snakeCase_form hascii
  have hagain : snakeCase (snakeCase s) = snakeCase s := snakeCase_of_isSnake hform
  refine ⟨hform, ?_, hagain, ?_⟩
  · rw [toList_snakeCase]
    exact filter_snakeChars hascii
  · unfold upperCamel
    rw [hagain]

/-- An acronym, a digit, dropped characters and a run of separators. -/
theorem isSnake_snakeCase_acronym :
    (∀ c ∈ "get2HTTPItems -- (By_id)!".toList, isAscii c = true) ∧
    snakeCase "get2HTTPItems -- (By_id)!" = "get2httpitems_by_id" ∧
    IsSnake (snakeCase "get2HTTPItems -- (By_id)!") ∧
    snakeCase (snakeCase "get2HTTPItems -- (By_id)!") = snakeCase "get2HTTPItems -- (By_id)!" ∧
    upperCamel (snakeCase "get2HTTPItems -- (By_id)!") = "Get2httpitemsById" := by
  have hascii : ∀ c ∈ "get2HTTPItems -- (By_id)!".toList, isAscii c = true :=
    List.all_eq_true.mp (by decide)
  obtain ⟨hform, -, hagain, hcamel⟩ := isSnake_snakeCase "get2HTTPItems -- (By_id)!" hascii
  have hsnake : snakeCase "get2HTTPItems -- (By_id)!" = "get2httpitems_by_id" := by decide
  refine ⟨hascii, hsnake, hform.resolve_left ?_, hagain, ?_⟩
  · rw [hsnake]
    decide
  · rw [hcamel]
    decide

end Naming

end ApiTools
