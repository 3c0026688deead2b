import ApiTools.Audit.Source
import ApiTools.Proofs.Text.OneLine

/-!
# Reading definitions and registrations piece by piece

What an audit finds in a source text is found piece by piece.  A piece in which no line begins with
an `a` defines nothing (`Audit.definedNames_append`), and a piece in which `mcp.tool()(` does not
occur registers nothing if a separator follows (`Audit.IsFree.isSkipped_append`).
-/

namespace ApiTools.Audit

open Naming Text

variable {name module : String} {c : Char} {cs more : List Char} {atStart : Bool}

theorem isBlank_of_isIdentifierChar (h : isIdentifierChar c = true) : isBlank c = false := by
  obtain ⟨n, hn, rfl⟩ := exists_eq_ofNat_of_isAscii (isAscii_of_isIdentifierChar h)
  revert n
  decide

/-! ### Definitions -/

/-- The names that are defined in the characters; `atStart` says whether a line begins with them. -/
def definedNames (atStart : Bool) (cs : List Char) : List String :=
  (definitionsFrom 1 atStart cs).map Prod.fst

/-- The names do not depend on the numbers of the lines. -/
theorem map_fst_definitionsFrom (line : Nat) (atStart : Bool) (cs : List Char) :
    (definitionsFrom line atStart cs).map Prod.fst = definedNames atStart cs := by
  unfold definedNames
  generalize 1 = other
  induction cs generalizing line other atStart with
  | nil => rfl
  | cons c rest ih =>
    rw [definitionsFrom, definitionsFrom]
    split
    · rw [List.map_cons, List.map_cons, ih _ _ (if c = '\n' then other + 1 else other)]
    · rw [ih _ _ (if c = '\n' then other + 1 else other)]

theorem map_fst_definitions (source : String) :
    (definitions source).map Prod.fst = definedNames true source.toList :=
  map_fst_definitionsFrom 1 true source.toList

theorem definedNames_cons (atStart : Bool) (c : Char) (rest : List Char) :
    definedNames atStart (c :: rest) =
      ((if atStart then defined? (c :: rest) else none).toList
        ++ definedNames (c = '\n') rest) := by
  rw [definedNames, definitionsFrom]
  split
  · next found hfound =>
    rw [hfound, List.map_cons, map_fst_definitionsFrom]
    rfl
  · next hnone =>
    rw [hnone, map_fst_definitionsFrom]
    rfl

theorem defined?_of_ne (hc : c ≠ 'a') (rest : List Char) : defined? (c :: rest) = none := by
  have hbegins : "async".toList.isPrefixOf (c :: rest) = false := by
    show (('a' == c) && _) = false
    rw [beq_eq_false_iff_ne.mpr hc.symm, Bool.false_and]
  unfold defined? after?
  rw [hbegins]
  rfl

/-- Does a line begin after the characters? -/
def lineState : Bool → List Char → Bool
  | atStart, [] => atStart
  | _, c :: rest => lineState (c = '\n') rest

/-- Does no line begin with an `a`? -/
def isQuiet : Bool → List Char → Bool
  | _, [] => true
  | atStart, c :: rest => !(atStart && c = 'a') && isQuiet (c = '\n') rest

theorem definedNames_append (h : isQuiet atStart cs = true) (more : List Char) :
    definedNames atStart (cs ++ more) = definedNames (lineState atStart cs) more := by
  induction cs generalizing atStart with
  | nil => rfl
  | cons c rest ih =>
    rw [isQuiet, Bool.and_eq_true, Bool.not_eq_true', Bool.and_eq_false_iff] at h
    have hnone : (if atStart then defined? (c :: (rest ++ more)) else none) = none := by
      rcases h.1 with hstart | hc
      · rw [hstart]
        rfl
      · rw [defined?_of_ne (of_decide_eq_false hc)]
        split <;> rfl
    rw [List.cons_append, definedNames_cons, hnone, ih h.2]
    rfl

theorem isQuiet_of_oneLine (h : '\n' ∉ cs) : isQuiet false cs = true ∧ lineState false cs = false := by
  induction cs with
  | nil => exact ⟨rfl, rfl⟩
  | cons c rest ih =>
    rw [List.mem_cons, not_or] at h
    have hc : decide (c = '\n') = false := decide_eq_false (Ne.symm h.1)
    rw [isQuiet, lineState, hc]
    exact ih h.2

/-- The rest of a line defines nothing. -/
theorem definedNames_append_of_oneLine (h : '\n' ∉ cs) (more : List Char) :
    definedNames false (cs ++ more) = definedNames false more := by
  rw [definedNames_append (isQuiet_of_oneLine h).1, (isQuiet_of_oneLine h).2]

/-- A name is read up to the parenthesis. -/
theorem called?_of_isName (h : IsName name) (more : List Char) :
    called? (name.toList ++ '(' :: more) = some name := by
  obtain ⟨c, rest, hhead, hletter⟩ := h.head
  have htake : (name.toList ++ '(' :: more).takeWhile isIdentifierChar = name.toList := by
    rw [List.takeWhile_append_of_pos h.chars, List.takeWhile_cons_of_neg (by decide),
      List.append_nil]
  have hdrop : (name.toList ++ '(' :: more).dropWhile isIdentifierChar = '(' :: more := by
    rw [List.dropWhile_append_of_pos h.chars, List.dropWhile_cons_of_neg (by decide)]
  have hblank : ('(' :: more).dropWhile isBlank = '(' :: more :=
    List.dropWhile_cons_of_neg (by decide)
  have hstart : isNameStart c = true := by
    have hchar : isIdentifierChar c = true := h.chars c (hhead ▸ List.mem_cons_self ..)
    unfold isNameStart
    rw [hchar, isAsciiDigit_of_isLetter hletter]
    rfl
  unfold called?
  rw [htake, hdrop, hblank, hhead]
  simp only [hstart, if_true]
  rw [← hhead, String.ofList_toList]

/-- A definition at the beginning of a line is found, and its head goes on in that line. -/
theorem definedNames_definition (h : IsName name) (more : List Char) :
    definedNames true ("async def ".toList ++ (name.toList ++ '(' :: more))
      = name :: definedNames false more := by
  have hdefined : defined? ("async def ".toList ++ (name.toList ++ '(' :: more)) = some name := by
    obtain ⟨c, rest, hhead, -⟩ := h.head
    have hblank : isBlank c = false :=
      isBlank_of_isIdentifierChar (h.chars c (hhead ▸ List.mem_cons_self ..))
    have hdrop : (name.toList ++ '(' :: more).dropWhile isBlank = name.toList ++ '(' :: more := by
      rw [hhead, List.cons_append, List.dropWhile_cons_of_neg (by rw [hblank]; decide)]
    show (do
      let rest ← some ((name.toList ++ '(' :: more).dropWhile isBlank)
      called? rest) = _
    rw [hdrop]
    exact called?_of_isName h more
  have hline : '\n' ∉ "sync def ".toList ++ (name.toList ++ ['(']) := by
    simp only [List.mem_append, not_or]
    exact ⟨by decide, h.isOneLine, by decide⟩
  have hsplit : "async def ".toList ++ (name.toList ++ '(' :: more)
      = 'a' :: ("sync def ".toList ++ (name.toList ++ ['(']) ++ more) := by
    simp
  rw [hsplit] at hdefined ⊢
  rw [definedNames_cons, if_pos rfl, hdefined]
  exact congrArg (name :: ·) (definedNames_append_of_oneLine hline more)

/-! ### Registrations -/

/-- Is there no beginning of a registration in the characters? -/
def IsFree (cs : List Char) : Prop := occursIn registrationStart cs = false

instance : DecidablePred IsFree := fun cs =>
  inferInstanceAs (Decidable (occursIn registrationStart cs = false))

theorem isFree_nil : IsFree [] := by decide

/-- Is it a character that no beginning of a registration holds? -/
def IsGuard (c : Char) : Prop := c ∉ registrationStart

instance : DecidablePred IsGuard := fun c => inferInstanceAs (Decidable (c ∉ registrationStart))

theorem isPrefixOf_append_of_isGuard (hc : IsGuard c) (cs more : List Char) :
    registrationStart.isPrefixOf (cs ++ c :: more) = registrationStart.isPrefixOf cs := by
  rw [Bool.eq_iff_iff, List.isPrefixOf_iff_prefix, List.isPrefixOf_iff_prefix]
  refine ⟨fun h => ?_, fun h => h.trans (List.prefix_append ..)⟩
  rcases Nat.lt_or_ge cs.length registrationStart.length with hlength | hlength
  · have hfront : cs ++ [c] <+: cs ++ c :: more := by simp
    have hinside : cs ++ [c] <+: registrationStart :=
      List.prefix_of_prefix_length_le hfront h (by rw [List.length_append]; exact hlength)
    exact absurd (hinside.subset (by simp)) hc
  · exact List.prefix_of_prefix_length_le h (List.prefix_append ..) hlength

/-- A guard keeps what is before it apart from what is after it. -/
theorem isFree_append (hc : IsGuard c) (cs more : List Char) :
    IsFree (cs ++ c :: more) ↔ IsFree cs ∧ IsFree more := by
  unfold IsFree
  induction cs with
  | nil =>
    have hnone : registrationStart.isPrefixOf (c :: more) = false :=
      isPrefixOf_append_of_isGuard hc [] more
    have hempty : occursIn registrationStart [] = false := by decide
    have hstep : occursIn registrationStart (c :: more)
        = (registrationStart.isPrefixOf (c :: more) || occursIn registrationStart more) := rfl
    rw [List.nil_append, hstep, hnone, Bool.false_or, hempty, eq_self, true_and]
  | cons d rest ih =>
    rw [List.cons_append, occursIn, occursIn, ← List.cons_append,
      isPrefixOf_append_of_isGuard hc, Bool.or_eq_false_iff, Bool.or_eq_false_iff, ih, and_assoc]

/-- A registration has a parenthesis. -/
theorem isFree_of_not_mem (h : '(' ∉ cs) : IsFree cs := by
  unfold IsFree
  induction cs with
  | nil => rfl
  | cons d rest ih =>
    rw [occursIn, ih (List.not_mem_of_not_mem_cons h), Bool.or_false, ← Bool.not_eq_true,
      List.isPrefixOf_iff_prefix]
    exact fun hbegins => h (hbegins.subset (by decide))

/-- A registration begins with an `m`. -/
theorem isFree_cons_of_ne (hc : c ≠ 'm') : IsFree (c :: cs) ↔ IsFree cs := by
  have hnone : registrationStart.isPrefixOf (c :: cs) = false := by
    have hstart : registrationStart = 'm' :: registrationStart.tail := by decide
    rw [← Bool.not_eq_true, List.isPrefixOf_iff_prefix, hstart, List.cons_prefix_cons]
    exact fun h => hc h.1.symm
  unfold IsFree
  rw [occursIn, hnone, Bool.false_or]

/-- A character stands for itself in a quoted text, or a backslash stands there with something that
has no `m`. -/
theorem escape_cases (c : Char) :
    Quoted.escape c = [c] ∨ ∃ tail, Quoted.escape c = '\\' :: tail ∧ 'm' ∉ tail := by
  have hdigit : ∀ n < 16, 'm' ≠ Quoted.hexDigit n := by decide
  unfold Quoted.escape
  split
  · next letter hletter =>
    refine .inr ⟨[letter], rfl, ?_⟩
    unfold Quoted.shortEscape? at hletter
    split at hletter <;> cases hletter <;> decide
  · split_ifs with hlow
    · have hhigh := hdigit (c.toNat / 16) (by omega)
      have hrest := hdigit (c.toNat % 16) (by omega)
      exact .inr ⟨_, rfl, by simpa using ⟨hhigh, hrest⟩⟩
    · exact .inl rfl

theorem prefix_of_prefix_escape {word : List Char} (hword : '\\' ∉ word)
    (h : word <+: cs.flatMap Quoted.escape) : word <+: cs := by
  induction word generalizing cs with
  | nil => exact List.nil_prefix
  | cons d rest ih =>
    rw [List.mem_cons, not_or] at hword
    cases cs with
    | nil => cases List.prefix_nil.mp h
    | cons c more =>
      rw [List.flatMap_cons] at h
      rcases escape_cases c with hplain | ⟨tail, hescaped, -⟩
      · rw [hplain, List.singleton_append, List.cons_prefix_cons] at h
        rw [List.cons_prefix_cons]
        exact h.imp_right (ih hword.2)
      · rw [hescaped, List.cons_append, List.cons_prefix_cons] at h
        exact absurd h.1.symm hword.1

/-- Escapes do not make up the beginning of a registration. -/
theorem IsFree.escape (h : IsFree cs) : IsFree (cs.flatMap Quoted.escape) := by
  have hskip : ∀ tail more : List Char, 'm' ∉ tail → IsFree more → IsFree (tail ++ more) := by
    intro tail more htail hmore
    induction tail with
    | nil => exact hmore
    | cons d rest ih =>
      rw [List.mem_cons, not_or] at htail
      exact (isFree_cons_of_ne (Ne.symm htail.1)).mpr (ih htail.2)
  induction cs with
  | nil => exact h
  | cons c rest ih =>
    unfold IsFree at h
    rw [occursIn, Bool.or_eq_false_iff, ← Bool.not_eq_true, List.isPrefixOf_iff_prefix] at h
    have hrest : IsFree (rest.flatMap Quoted.escape) := ih h.2
    rw [List.flatMap_cons]
    -- What stands for a character is the character, or a backslash and characters none of which
    -- begins a registration.
    rcases escape_cases c with hplain | ⟨tail, hescaped, htail⟩
    · have hnone : registrationStart.isPrefixOf (c :: rest.flatMap Quoted.escape) = false := by
        rw [← Bool.not_eq_true, List.isPrefixOf_iff_prefix]
        intro hbegins
        refine h.1 (prefix_of_prefix_escape (by decide) ?_)
        rw [List.flatMap_cons, hplain]
        exact hbegins
      unfold IsFree at hrest ⊢
      rw [hplain, List.singleton_append, occursIn, hnone, Bool.false_or]
      exact hrest
    · have hescape : 'm' ∉ '\\' :: tail := List.not_mem_cons_of_ne_of_not_mem (by decide) htail
      rw [hescaped]
      exact hskip _ _ hescape hrest

theorem registrationsFrom_of_isFree (h : IsFree cs) : registrationsFrom 0 cs = [] := by
  unfold IsFree at h
  induction cs with
  | nil => rfl
  | cons d rest ih =>
    rw [occursIn, Bool.or_eq_false_iff] at h
    rw [registrationsFrom, registered?, after?, h.1]
    exact ih h.2

/-- Where no registration begins none is found, up to a guard. -/
theorem registrationsFrom_append (hc : IsGuard c) (h : IsFree cs) (more : List Char) :
    registrationsFrom 0 (cs ++ c :: more) = registrationsFrom 0 more := by
  have hguard : ∀ rest, IsFree rest → registrationsFrom 0 (rest ++ c :: more)
      = registrationsFrom 0 more := by
    intro rest hrest
    unfold IsFree at hrest
    induction rest with
    | nil =>
      have hnone : registrationStart.isPrefixOf (c :: more) = false :=
        isPrefixOf_append_of_isGuard hc [] more
      rw [List.nil_append, registrationsFrom, registered?, after?, hnone]
      rfl
    | cons d rest ih =>
      rw [occursIn, Bool.or_eq_false_iff] at hrest
      rw [List.cons_append, registrationsFrom, registered?, after?, ← List.cons_append,
        isPrefixOf_append_of_isGuard hc, hrest.1]
      exact ih hrest.2
  exact hguard cs h

/-- Is nothing registered in the characters, whatever follows? -/
def IsSkipped (cs : List Char) : Prop :=
  ∀ more, registrationsFrom 0 (cs ++ more) = registrationsFrom 0 more

theorem IsSkipped.append {ds : List Char} (h : IsSkipped cs) (h' : IsSkipped ds) :
    IsSkipped (cs ++ ds) := by
  intro more
  rw [List.append_assoc, h, h']

/-- Does no registration begin in the characters, and are they guarded on both sides? -/
def IsSeparator (cs : List Char) : Prop :=
  IsFree cs ∧ (∃ c ∈ cs.head?, IsGuard c) ∧ ∃ c ∈ cs.getLast?, IsGuard c

theorem isSeparator_iff : IsSeparator cs ↔ IsFree cs ∧ cs.head?.any (decide <| IsGuard ·) = true ∧
    cs.getLast?.any (decide <| IsGuard ·) = true := by
  unfold IsSeparator
  simp only [Option.any_eq_true, decide_eq_true_eq, Option.mem_def]

instance : DecidablePred IsSeparator := fun _ => decidable_of_iff _ isSeparator_iff.symm

/-- Where no registration begins none is found, up to a separator and in it. -/
theorem IsFree.isSkipped_append {separator : List Char} (h : IsFree cs)
    (hseparator : IsSeparator separator) : IsSkipped (cs ++ separator) := by
  obtain ⟨hfree, ⟨first, hfirst, hguard⟩, last, hlast, hguard'⟩ := hseparator
  obtain ⟨inner, hinner⟩ := List.getLast?_eq_some_iff.mp hlast
  intro more
  rw [hinner, List.append_assoc, List.append_assoc]
  cases inner with
  | nil => exact registrationsFrom_append hguard' h more
  | cons d inner =>
    rw [hinner] at hfirst hfree
    cases Option.some.inj hfirst
    have hinside : IsFree inner := by
      have hrest := ((isFree_append hguard [] _).mp hfree).2
      exact ((isFree_append hguard' inner []).mp hrest).1
    rw [List.cons_append, registrationsFrom_append hguard h]
    exact registrationsFrom_append hguard' hinside more

theorem registrationsFrom_drop (skip : Nat) (cs : List Char) :
    registrationsFrom skip cs = registrationsFrom 0 (cs.drop skip) := by
  induction cs generalizing skip with
  | nil => cases skip <;> rfl
  | cons d rest ih =>
    cases skip with
    | zero => rfl
    | succ skip =>
      rw [registrationsFrom, List.drop_succ_cons]
      exact ih skip

theorem trimChars_of_isName (h : IsName name) : trimChars name.toList = name.toList := by
  have hkept : ∀ c ∈ name.toList, isBlank c = false :=
    fun c hc => isBlank_of_isIdentifierChar (h.chars c hc)
  exact trimBy_eq_self (fun c hc => hkept c (List.mem_of_head? hc))
    fun c hc => hkept c (List.mem_of_getLast? hc)

theorem registered?_of_isName (hmodule : IsName module) (hname : IsName name) (more : List Char) :
    registered? (registrationStart ++ (module.toList ++ '.' :: (name.toList ++ ')' :: more)))
      = some (name, registrationStart.length + module.toList.length + 1 + name.toList.length + 1) := by
  have hafter : after? registrationStart
        (registrationStart ++ (module.toList ++ '.' :: (name.toList ++ ')' :: more)))
      = some (module.toList ++ '.' :: (name.toList ++ ')' :: more)) := by
    unfold after?
    rw [if_pos (List.isPrefixOf_iff_prefix.mpr (List.prefix_append ..)), List.drop_left]
  -- The names hold neither the point nor the parenthesis that ends them.
  have hends : ∀ {s : String} {e : Char}, IsName s → isIdentifierChar e = false →
      ∀ c ∈ s.toList, decide (c ≠ e) = true := by
    intro s e hs he c hc
    rw [decide_eq_true_eq]
    rintro rfl
    exact hs.not_mem he hc
  have hpoint := hends hmodule (show isIdentifierChar '.' = false by decide)
  have hparenthesis := hends hname (show isIdentifierChar ')' = false by decide)
  have hnonempty : ∀ {s : String}, IsName s → s.toList.isEmpty = false := by
    intro s hs
    obtain ⟨c, rest, hhead, -⟩ := hs.head
    rw [hhead]
    rfl
  unfold registered?
  rw [hafter]
  dsimp only
  rw [List.takeWhile_append_of_pos hpoint, List.dropWhile_append_of_pos hpoint,
    List.takeWhile_cons_of_neg (by decide), List.dropWhile_cons_of_neg (by decide),
    List.append_nil]
  dsimp only
  rw [List.takeWhile_append_of_pos hparenthesis, List.dropWhile_append_of_pos hparenthesis,
    List.takeWhile_cons_of_neg (by decide), List.dropWhile_cons_of_neg (by decide),
    List.append_nil]
  dsimp only
  rw [hnonempty hmodule, hnonempty hname, trimChars_of_isName hname, String.ofList_toList]
  rfl

/-- A registration is found, and reading goes on after it. -/
theorem registrationsFrom_registration (hmodule : IsName module) (hname : IsName name)
    (more : List Char) :
    registrationsFrom 0
        (registrationStart ++ (module.toList ++ '.' :: (name.toList ++ ')' :: more)))
      = name :: registrationsFrom 0 more := by
  have hfound := registered?_of_isName hmodule hname more
  obtain ⟨rest, hrest⟩ : ∃ rest,
      registrationStart ++ (module.toList ++ '.' :: (name.toList ++ ')' :: more)) = 'm' :: rest :=
    ⟨_, rfl⟩
  have hdrop : rest.drop (registrationStart.length + module.toList.length + 1 + name.toList.length)
      = more := by
    have hwhole : 'm' :: rest
        = (registrationStart ++ module.toList ++ ['.'] ++ name.toList ++ [')']) ++ more := by
      rw [← hrest]
      simp
    have hlength : (registrationStart ++ module.toList ++ ['.'] ++ name.toList ++ [')']).length
        = registrationStart.length + module.toList.length + 1 + name.toList.length + 1 := by
      simp only [List.length_append, List.length_singleton]
    rw [← List.drop_succ_cons (a := 'm'), hwhole, ← hlength, List.drop_left]
  rw [hrest] at hfound ⊢
  rw [registrationsFrom, hfound]
  dsimp only
  rw [Nat.add_sub_cancel, registrationsFrom_drop, hdrop]

end ApiTools.Audit
