import ApiTools.Proofs.Naming.Names
import ApiTools.Tool.Extract

/-!
# Which paths give identifiers

The name of a tool comes from an operation identifier, of which every character is brought to
identifiers (`isName_functionName`), or from the method and the path.  Of a path only slashes,
hyphens, points and braces are taken care of, and letters are brought to lowercase; every other
character is in the name as well.  So the name is an identifier exactly where the path is made of
characters that `isPathChar` lists (`Spec.isIdentifier_toolName_iff`).
-/

namespace ApiTools

namespace Text

/-! ### Small forms -/

/-- The sign for the unit kelvin.  Its small form is the letter `k`. -/
def kelvin : Char := '\u212a'

theorem toNat_ofNat (n : Nat) : (Char.ofNat n).toNat = n ∨ (Char.ofNat n).toNat = 0 := by
  unfold Char.ofNat
  by_cases h : n.isValidChar
  · rw [dif_pos h]
    exact .inl rfl
  · rw [dif_neg h]
    exact .inr rfl

theorem isIdentifierChar_of_not_isAscii {c : Char} (h : isAscii c = false) :
    isIdentifierChar c = false := by
  rw [← Bool.not_eq_true] at h ⊢
  exact fun hc => h (isAscii_of_isIdentifierChar hc)

theorem isIdentifierChar_ofNat_of_le {n : Nat} (h : 128 ≤ n) :
    isIdentifierChar (Char.ofNat n) = false := by
  rcases toNat_ofNat n with hn | hn
  · refine isIdentifierChar_of_not_isAscii ?_
    unfold isAscii
    rw [hn, decide_eq_false_iff_not]
    omega
  · unfold isIdentifierChar isAsciiAlphanumeric isAsciiUpper isAsciiLower isAsciiDigit
    have hunderscore : Char.ofNat n ≠ '_' := fun heq => by simp [heq] at hn
    simp [hn, hunderscore]

theorem isIdentifierChar_asciiLower_iff {c : Char} (h : isAscii c = true) :
    isIdentifierChar (asciiLower c) = isIdentifierChar c := by
  obtain ⟨n, hn, rfl⟩ := exists_eq_ofNat_of_isAscii h
  revert n
  decide

/-- What the shifts to lowercase move comes from ASCII or stays outside of it, but for one sign. -/
theorem lowerShifts_cases : ∀ shift ∈ Table.lowerShifts,
    shift.run.last < 128 ∨ 128 ≤ (shift.run.first : Int) + shift.offset ∨
      shift.run.first = kelvin.toNat ∧ shift.run.last = kelvin.toNat := by
  decide +kernel

theorem lowerExpansions_hold : ∀ entry ∈ Table.lowerExpansions,
    ∃ code ∈ entry.2, isIdentifierChar (Char.ofNat code) = false := by
  decide

/-- Outside of ASCII the small forms are no identifiers, with one exception. -/
theorem exists_mem_lowerChar {c : Char} (h : isAscii c = false) (hc : c ≠ kelvin) :
    ∃ d ∈ lowerChar c, isIdentifierChar d = false := by
  unfold lowerChar mapCase
  rw [h, if_neg Bool.false_ne_true]
  split
  · next codes hcodes =>
    obtain ⟨front, back, hentries, -⟩ := List.lookup_eq_some_iff.mp hcodes
    obtain ⟨code, hcode, hnone⟩ :=
      lowerExpansions_hold (c.toNat, codes) (by rw [hentries]; simp)
    exact ⟨_, List.mem_map_of_mem hcode, hnone⟩
  · refine ⟨_, List.mem_singleton_self _, ?_⟩
    cases hshifted : Table.shifted? Table.lowerShifts c.toNat with
    | none => exact isIdentifierChar_of_not_isAscii h
    | some image =>
      obtain ⟨shift, hfound, rfl⟩ := Option.map_eq_some_iff.mp hshifted
      have hhas := List.find?_some hfound
      unfold Table.Run.has at hhas
      simp only [Bool.and_eq_true, decide_eq_true_eq] at hhas
      unfold isAscii at h
      rw [decide_eq_false_iff_not] at h
      refine isIdentifierChar_ofNat_of_le ?_
      rcases lowerShifts_cases shift (List.mem_of_find?_eq_some hfound) with hlast | hfirst | hsign
      · omega
      · omega
      · exact absurd (Char.toNat_inj.mp (by omega)) hc

theorem lowerChar_kelvin : lowerChar kelvin = ['k'] := by decide

theorem isIdentifierChar_lowerChar_iff (c : Char) :
    (∀ d ∈ lowerChar c, isIdentifierChar d = true) ↔ isIdentifierChar c = true ∨ c = kelvin := by
  by_cases hascii : isAscii c = true
  · have hc : c ≠ kelvin := by
      rintro rfl
      revert hascii
      decide
    rw [lowerChar, if_pos hascii, List.forall_mem_singleton, isIdentifierChar_asciiLower_iff hascii,
      or_iff_left hc]
  · rw [Bool.not_eq_true] at hascii
    by_cases hc : c = kelvin
    · refine iff_of_true ?_ (.inr hc)
      rw [hc, lowerChar_kelvin, List.forall_mem_singleton]
      decide
    · obtain ⟨d, hd, hnone⟩ := exists_mem_lowerChar hascii hc
      refine iff_of_false (fun hall => ?_) ?_
      · exact Bool.false_ne_true (hnone.symm.trans (hall d hd))
      · rw [isIdentifierChar_of_not_isAscii hascii]
        exact not_or.mpr ⟨Bool.false_ne_true, hc⟩

/-- A text in lowercase is made of characters of identifiers where each of its characters is one or
becomes one. -/
theorem isIdentifierChar_lowerChars_iff (cs : List Char) :
    (∀ d ∈ lowerChars cs, isIdentifierChar d = true)
      ↔ ∀ c ∈ cs, isIdentifierChar c = true ∨ c = kelvin := by
  have hfrom : ∀ before, (∀ d ∈ lowerFrom before cs, isIdentifierChar d = true)
      ↔ ∀ c ∈ cs, isIdentifierChar c = true ∨ c = kelvin := by
    induction cs with
    | nil =>
      intro before
      rw [lowerFrom]
      exact iff_of_true (fun _ hd => absurd hd List.not_mem_nil)
        fun _ hc => absurd hc List.not_mem_nil
    | cons c rest ih =>
      intro before
      rw [lowerFrom, List.forall_mem_append, List.forall_mem_cons, ih (c :: before)]
      refine and_congr_left' ?_
      by_cases hsigma : c = 'Σ'
      · -- Neither form of the small sigma is in an identifier.
        subst hsigma
        rw [if_pos rfl, List.forall_mem_singleton]
        refine iff_of_false ?_ (by decide)
        split_ifs <;> decide
      · rw [if_neg hsigma]
        exact isIdentifierChar_lowerChar_iff c
  exact hfrom []

end Text

namespace Naming

open Text

/-! ### Modules of paths -/

/-- Does the character come into the name of a module as characters of identifiers, if at all? -/
def isPathChar (c : Char) : Bool :=
  isIdentifierChar c || c == kelvin || c == '/' || c == '-' || c == '.' || isBrace c

theorem forall_mem_dropWhile {p q : Char → Bool} (h : ∀ c, p c = true → q c = true)
    (cs : List Char) : (∀ c ∈ cs.dropWhile p, q c = true) ↔ ∀ c ∈ cs, q c = true := by
  induction cs with
  | nil => exact Iff.rfl
  | cons c rest ih =>
    rw [List.dropWhile_cons]
    split_ifs with hc
    · rw [ih, List.forall_mem_cons, and_iff_right (h c hc)]
    · rfl

/-- The character as it stands in the name of a module, before letters are brought to lowercase. -/
def moduleChar (c : Char) : Char := if c = '/' || c = '-' || c = '.' then '_' else c

/-- Braces are left out, and slashes, hyphens and points become underscores. -/
theorem moduleChar_iff (c : Char) :
    ((!isBrace c) = true → isIdentifierChar (moduleChar c) = true ∨ moduleChar c = kelvin)
      ↔ isPathChar c = true := by
  unfold moduleChar isPathChar
  by_cases hbrace : isBrace c = true
  · simp [hbrace]
  · by_cases hseparator : (c = '/' || c = '-' || c = '.') = true
    · rw [if_pos hseparator]
      refine iff_of_true (fun _ => .inl (by decide)) ?_
      simp only [Bool.or_eq_true, decide_eq_true_eq, beq_iff_eq] at hseparator ⊢
      tauto
    · rw [if_neg hseparator]
      simp only [Bool.or_eq_true, decide_eq_true_eq, beq_iff_eq, Bool.not_eq_true'] at hseparator ⊢
      rw [Bool.not_eq_true] at hbrace
      simp only [hbrace, true_imp_iff, Bool.false_eq_true, or_false]
      tauto

/-- The name of the module for a path is what the path comes to in lowercase, if there is anything
left of it. -/
theorem moduleName_cases (path : String) {cs : List Char}
    (hcs : lowerChars (((path.toList.dropWhile (· == '/')).filter (!isBrace ·)).map moduleChar)
      = cs) :
    cs = [] ∧ moduleName path = "root" ∨ moduleName path = String.ofList cs := by
  subst hcs
  unfold moduleName
  dsimp only
  split
  · next hnone => exact .inl ⟨hnone, rfl⟩
  · exact .inr rfl

/-- The name of the module for a path is made of characters of identifiers exactly where the path is
made of those that come into it as such. -/
theorem isIdentifierChar_moduleName_iff (path : String) :
    (∀ c ∈ (moduleName path).toList, isIdentifierChar c = true)
      ↔ ∀ c ∈ path.toList, isPathChar c = true := by
  have hslash : ∀ c : Char, (c == '/') = true → isPathChar c = true := by
    intro c hc
    rw [eq_of_beq hc]
    decide
  generalize hcs : lowerChars
    (((path.toList.dropWhile (· == '/')).filter (!isBrace ·)).map moduleChar) = cs
  have hlower : (∀ c ∈ cs, isIdentifierChar c = true) ↔ ∀ c ∈ path.toList, isPathChar c = true := by
    rw [← hcs, isIdentifierChar_lowerChars_iff, List.forall_mem_map, List.forall_mem_filter]
    simp only [moduleChar_iff, forall_mem_dropWhile hslash]
  rcases moduleName_cases path hcs with ⟨rfl, hroot⟩ | hname
  · -- Nothing is left of the path, which is called the root.
    rw [hroot]
    exact iff_of_true (List.all_eq_true.mp (by decide))
      (hlower.mp fun _ hd => absurd hd List.not_mem_nil)
  · rw [hname, String.toList_ofList]
    exact hlower

/-! ### Identifiers -/

/-- A letter of ASCII or an underscore first, then letters, digits and underscores. -/
structure IsIdentifier (s : String) : Prop where
  head : ∃ c rest, s.toList = c :: rest ∧ isAsciiDigit c = false
  chars : ∀ c ∈ s.toList, isIdentifierChar c = true

theorem IsName.isIdentifier {s : String} (h : IsName s) : IsIdentifier s := by
  obtain ⟨c, rest, hhead, hletter⟩ := h.head
  exact ⟨⟨c, rest, hhead, isAsciiDigit_of_isLetter hletter⟩, h.chars⟩

end Naming

namespace Spec

open Naming Text

/-- The name of a method begins like a name. -/
theorem isName_method (method : Method) : IsName (method.name ++ "_") := by
  cases method <;> decide

/-- The name that is made from method and path is an identifier where the path allows it. -/
theorem isIdentifier_methodName_iff (method : Method) (path : String) :
    IsIdentifier (method.name ++ "_" ++ moduleName path)
      ↔ ∀ c ∈ path.toList, isPathChar c = true := by
  rw [← isIdentifierChar_moduleName_iff]
  constructor
  · intro h c hc
    exact h.chars c (by rw [String.toList_append]; exact List.mem_append_right _ hc)
  · exact fun h => ((isName_method method).append h).isIdentifier

/-- The name of a tool is an identifier where its operation has an identifier of its own, or where
its path allows it. -/
theorem isIdentifier_toolName_iff (op : Operation) :
    IsIdentifier (toolName op) ↔
      (∃ id, op.operationId? = some id ∧ isBlankText id = false) ∨
        ∀ c ∈ op.path.toList, isPathChar c = true := by
  unfold toolName
  cases op.operationId? with
  | none => simp [isIdentifier_methodName_iff]
  | some id =>
    dsimp only
    by_cases hblank : isBlankText id = true
    · rw [if_pos hblank]
      simp [isIdentifier_methodName_iff, hblank]
    · rw [if_neg hblank]
      rw [Bool.not_eq_true] at hblank
      exact iff_of_true (isName_functionName id).isIdentifier (.inl ⟨id, rfl, hblank⟩)

/-- The name of a tool begins with a letter. -/
theorem head_toolName (op : Operation) :
    ∃ c rest, (toolName op).toList = c :: rest ∧ isLetter c = true := by
  have hmethod : ∃ c rest, (op.method.name ++ "_" ++ moduleName op.path).toList = c :: rest ∧
      isLetter c = true := by
    obtain ⟨c, rest, hhead, hletter⟩ := (isName_method op.method).head
    exact ⟨c, _, by rw [String.toList_append, hhead, List.cons_append], hletter⟩
  unfold toolName
  split
  · split_ifs
    · exact hmethod
    · exact (isName_functionName _).head
  · exact hmethod

theorem isName_toolName_of_isIdentifier {op : Operation} (h : IsIdentifier (toolName op)) :
    IsName (toolName op) :=
  ⟨head_toolName op, h.chars⟩

end Spec

end ApiTools
