import ApiTools.Proofs.Text.JsonGrammar
import ApiTools.Proofs.Text.Quoted
import ApiTools.Proofs.Text.TripleQuoted
import ApiTools.Tool.TypeHint

/-!
# Literals between double quotes

`DoubleQuoted.literal?` reads a literal of the generated language and gives what it denotes,
character by character as numbers.  The inside of a literal is what comes before the first quote
that no backslash protects (`read?`); then the escapes in it are replaced (`decodeFrom?`).  These
escapes are not those of a quoted text: there are others, and an unknown one stands for itself.  But
each escape that a quoted text is written with has the same meaning in a literal
(`decodeFrom?_escape`), and it closes no literal (`read?_escape`).  So a quoted text is a literal
for this text, whatever comes after it (`isLiteralOf_quoted`).  Letters before a literal, which
change how it is read, are not looked at.
-/

namespace ApiTools.Text.DoubleQuoted

/-! ### Reading literals -/

/-- Reads a literal whose opening quote has been read: the inside of it, and what follows the
closing quote.  A backslash protects the character after it; otherwise the literal must end in its
line. -/
def read? : List Char → Option (List Char × List Char)
  | [] => none
  | '"' :: rest => some ([], rest)
  | '\\' :: c :: rest => (read? rest).map fun found => ('\\' :: c :: found.1, found.2)
  | c :: rest =>
    if c = '\n' || c = '\r' then none else (read? rest).map fun found => (c :: found.1, found.2)

/-- The number with as many hexadecimal digits as are asked for. -/
def hexCode? (digits : Nat) (cs : List Char) : Option Nat :=
  if cs.length < digits then none
  else (cs.take digits).foldlM (fun code c => (Quoted.hexValue? c).map (16 * code + ·)) 0

/-- Is it a digit of base 8? -/
def isOctalDigit (c : Char) : Bool := 48 ≤ c.toNat && c.toNat ≤ 55

/-- The number of a character that is written as a backslash and one character. -/
def signCode? : Char → Option Nat
  | '\\' => some 92
  | '\x27' => some 39
  | '"' => some 34
  | 'a' => some 7
  | 'b' => some 8
  | 't' => some 9
  | 'n' => some 10
  | 'v' => some 11
  | 'f' => some 12
  | 'r' => some 13
  | _ => none

/-- What an escape denotes, and how many characters after its backslash belong to it.  The numbers
of characters with names are given by `named`.  A line feed is passed over, up to three digits are a
number of base 8, and before any other character the backslash stands for itself. -/
def escape? (named : List Char → Option Nat) : List Char → Option (List Nat × Nat)
  | [] => none
  | 'x' :: rest => (hexCode? 2 rest).map fun code => ([code], 3)
  | 'u' :: rest => (hexCode? 4 rest).map fun code => ([code], 5)
  | 'U' :: rest => ((hexCode? 8 rest).filter (· ≤ 0x10FFFF)).map fun code => ([code], 9)
  | 'N' :: rest =>
    let name := (rest.drop 1).takeWhile (· ≠ '\x7d')
    if rest.head? = some '\x7b' ∧ name.length + 1 < rest.length then
      (named name).map fun code => ([code], name.length + 3)
    else none
  | c :: rest =>
    let octal := (c :: rest.take 2).takeWhile isOctalDigit
    if c = '\n' then some ([], 1)
    else if isOctalDigit c then
      some ([octal.foldl (fun code d => 8 * code + (d.toNat - 48)) 0], octal.length)
    else some ((signCode? c).elim ([92], 0) fun code => ([code], 1))

/-- What the inside of a literal denotes; `skip` characters belong to an escape already read. -/
def decodeFrom? (named : List Char → Option Nat) : (skip : Nat) → List Char → Option (List Nat)
  | _, [] => some []
  | skip + 1, _ :: rest => decodeFrom? named skip rest
  | 0, c :: rest =>
    if c = '\\' then
      (escape? named rest).bind fun found =>
        (decodeFrom? named found.2 rest).map (found.1 ++ ·)
    else (decodeFrom? named 0 rest).map (c.toNat :: ·)

/-- What a literal between double quotes denotes, and what follows it.  Three quotes open a literal
that three quotes close. -/
def literal? (named : List Char → Option Nat) : List Char → Option (List Nat × List Char)
  | '"' :: '"' :: '"' :: rest =>
    (TripleQuoted.read? rest).bind fun found => (decodeFrom? named 0 found.1).map (·, found.2)
  | '"' :: rest => (read? rest).bind fun found => (decodeFrom? named 0 found.1).map (·, found.2)
  | _ => none

/-- Digits of base 16 and of base 8, and a letter that no escape begins with. -/
example : literal? (fun _ => none) "\"\\x41\\101\\q\" + x".toList
    = some ([65, 65, 92, 113], " + x".toList) := by decide

/-- Is a character escaped that stands after the given ones?  An odd number of backslashes is
directly before it. -/
def IsEscapedAfter (front : List Char) : Prop := (front.rtakeWhile (· == '\\')).length % 2 = 1

instance : DecidablePred IsEscapedAfter := fun _ => instDecidableEqNat _ _

/-- The characters are a literal for the text: they stand between double quotes, with no control
character and no quote inside that is not escaped, and whatever comes after them but a quote, they
are read as a literal that denotes the text. -/
structure IsLiteralOf (s : String) (literal : List Char) : Prop where
  form : ∃ inner, literal = '"' :: inner ++ ['"'] ∧ (∀ c ∈ inner, 0x20 ≤ c.toNat) ∧
    ∀ front back, inner = front ++ '"' :: back → IsEscapedAfter front
  denotes : ∀ named rest, rest.head? ≠ some '"' →
    literal? named (literal ++ rest) = some (s.toList.map Char.toNat, rest)

variable {c letter : Char} {cs front back piece rest : List Char} {named : List Char → Option Nat}

/-! ### Escapes in literals -/

/-- A character that neither closes a literal nor protects another one, and that is in the line. -/
theorem read?_cons (hquote : c ≠ '"') (hbackslash : c ≠ '\\') (hline : 0x20 ≤ c.toNat)
    (rest : List Char) :
    read? (c :: rest) = (read? rest).map fun found => (c :: found.1, found.2) := by
  have hnewline : ¬ ((c = '\n' || c = '\r') = true) := by
    rw [Bool.or_eq_true, decide_eq_true_eq, decide_eq_true_eq]
    rintro (rfl | rfl) <;> exact absurd hline (by decide)
  rw [read?, if_neg hnewline]
  · exact hquote
  · exact fun _ _ h => absurd h hbackslash

/-- An escape closes no literal, and is in the line. -/
theorem read?_escape (c : Char) (rest : List Char) :
    read? (Quoted.escape c ++ rest)
      = (read? rest).map fun found => (Quoted.escape c ++ found.1, found.2) := by
  have hdigit : ∀ n < 16, Quoted.hexDigit n ≠ '"' ∧ Quoted.hexDigit n ≠ '\\' ∧
      0x20 ≤ (Quoted.hexDigit n).toNat := by decide
  unfold Quoted.escape
  split
  · rfl
  · next hnone =>
    obtain ⟨hquote, hbackslash⟩ := Quoted.ne_of_shortEscape?_eq_none hnone
    split_ifs with hcontrol
    · obtain ⟨hquote', hbackslash', hline'⟩ := hdigit (c.toNat / 16) (by omega)
      obtain ⟨hquote'', hbackslash'', hline''⟩ := hdigit (c.toNat % 16) (by omega)
      simp only [List.cons_append, List.nil_append]
      rw [read?, read?_cons (by decide) (by decide) (by decide),
        read?_cons (by decide) (by decide) (by decide), read?_cons hquote' hbackslash' hline',
        read?_cons hquote'' hbackslash'' hline'']
      simp [Function.comp_def]
    · exact read?_cons hquote hbackslash (Nat.le_of_not_lt hcontrol) rest

theorem escape?_of_shortEscape? (h : Quoted.shortEscape? c = some letter) (rest : List Char) :
    escape? named (letter :: rest) = some ([c.toNat], 1) := by
  unfold Quoted.shortEscape? at h
  split at h <;> cases h <;> rfl

/-- The number of a control character is read from its digits. -/
theorem escape?_control {n : Nat} (h : n < 32) (rest : List Char) :
    escape? named
        ('u' :: '0' :: '0' :: Quoted.hexDigit (n / 16) :: Quoted.hexDigit (n % 16) :: rest)
      = some ([n], 5) := by
  have hlength : ¬ (rest.length + 1 + 1 + 1 + 1 < 4) := by omega
  unfold escape? hexCode?
  simp only [List.length_cons, if_neg hlength]
  interval_cases n <;> rfl

/-- An escape denotes the character that it was written for. -/
theorem decodeFrom?_escape (named : List Char → Option Nat) (c : Char) (rest : List Char) :
    decodeFrom? named 0 (Quoted.escape c ++ rest)
      = (decodeFrom? named 0 rest).map (c.toNat :: ·) := by
  unfold Quoted.escape
  split
  · next letter hletter =>
    simp only [List.cons_append, List.nil_append]
    rw [decodeFrom?, if_pos rfl, escape?_of_shortEscape? hletter, Option.bind_some, decodeFrom?]
    rfl
  · next hnone =>
    split_ifs with hcontrol
    · simp only [List.cons_append, List.nil_append]
      rw [decodeFrom?, if_pos rfl, escape?_control hcontrol, Option.bind_some]
      rfl
    · rw [List.singleton_append, decodeFrom?,
        if_neg (Quoted.ne_of_shortEscape?_eq_none hnone).2]

/-! ### The inside of a quoted text -/

theorem read?_flatMap_escape (cs rest : List Char) :
    read? (cs.flatMap Quoted.escape ++ '"' :: rest) = some (cs.flatMap Quoted.escape, rest) := by
  induction cs with
  | nil => rfl
  | cons c cs ih => rw [List.flatMap_cons, List.append_assoc, read?_escape, ih, Option.map_some]

theorem decodeFrom?_flatMap_escape (named : List Char → Option Nat) (cs : List Char) :
    decodeFrom? named 0 (cs.flatMap Quoted.escape) = some (cs.map Char.toNat) := by
  induction cs with
  | nil => rfl
  | cons c cs ih =>
    rw [List.flatMap_cons, decodeFrom?_escape, ih, Option.map_some, List.map_cons]

/-! ### Quotes inside of a quoted text -/

theorem isPrintable_of_isHexDigit (h : IsHexDigit c) : 0x20 ≤ c.toNat ∧ c ≠ '"' ∧ c ≠ '\\' := by
  have hdigits : "0123456789abcdefABCDEF".toList.all
      (fun c => 0x20 ≤ c.toNat ∧ c ≠ '"' ∧ c ≠ '\\') = true := by decide
  exact of_decide_eq_true (List.all_eq_true.mp hdigits c h)

/-- No character of an escape is a control character. -/
theorem le_toNat_of_isJsonCharacter (h : IsJsonCharacter piece) : ∀ c ∈ piece, 0x20 ≤ c.toNat := by
  cases h with
  | plain _ _ hcontrol => simpa using hcontrol
  | short hletter =>
    have hletters : ['"', '\\', '/', 'b', 'f', 'n', 'r', 't'].all (0x20 ≤ ·.toNat) = true := by
      decide
    simpa using List.all_eq_true.mp hletters _ hletter
  | code ha hb hc hd =>
    simp [(isPrintable_of_isHexDigit ha).1, (isPrintable_of_isHexDigit hb).1,
      (isPrintable_of_isHexDigit hc).1, (isPrintable_of_isHexDigit hd).1]

/-- The backslashes of an escape protect only what belongs to it. -/
theorem isEscapedAfter_append (h : IsJsonCharacter piece) (front : List Char) :
    IsEscapedAfter (piece ++ front) ↔ IsEscapedAfter front := by
  have hother : ∀ (before : List Char) (c : Char), c ≠ '\\' →
      (IsEscapedAfter (before ++ c :: front) ↔ IsEscapedAfter front) := by
    intro before c hc
    unfold IsEscapedAfter
    rw [TripleQuoted.rtakeWhile_append_cons (by simpa using hc)]
  cases h with
  | @plain c _ hbackslash _ => exact hother [] c hbackslash
  | @short letter _ =>
    by_cases hletter : letter = '\\'
    · -- Two backslashes, which protect each other.
      subst hletter
      have hpair : ∀ c ∈ ['\\', '\\'], (c == '\\') = true := List.all_eq_true.mp (by decide)
      unfold IsEscapedAfter
      exact Eq.congr_left (TripleQuoted.length_rtakeWhile_append_mod hpair front)
    · exact hother ['\\'] letter hletter
  | @code a b c d _ _ _ hd => exact hother ['\\', 'u', a, b, c] d (isPrintable_of_isHexDigit hd).2.2

/-- The only quote in an escape is escaped. -/
theorem isEscapedAfter_of_mem (h : IsJsonCharacter piece) (hpiece : piece = front ++ '"' :: back) :
    IsEscapedAfter front := by
  have hmem : '"' ∈ piece := hpiece ▸ List.mem_append_right front (List.mem_cons_self ..)
  cases h with
  | plain hquote _ _ => exact absurd (List.mem_singleton.mp hmem).symm hquote
  | short _ =>
    match front, hpiece with
    | [], hpiece => cases hpiece
    | [_], hpiece =>
      cases hpiece
      decide
    | _ :: _ :: more, hpiece =>
      have hlength := congrArg List.length hpiece
      simp only [List.length_cons, List.length_append, List.length_nil] at hlength
      omega
  | code ha hb hc hd =>
    have hne : ∀ c, IsHexDigit c → '"' ≠ c := fun c hc => (isPrintable_of_isHexDigit hc).2.1.symm
    simp [hne _ ha, hne _ hb, hne _ hc, hne _ hd] at hmem

/-- Every quote among escapes is escaped. -/
theorem isEscapedAfter_of_flatten {pieces : List (List Char)}
    (h : ∀ piece ∈ pieces, IsJsonCharacter piece) (hinner : pieces.flatten = front ++ '"' :: back) :
    IsEscapedAfter front := by
  induction pieces generalizing front with
  | nil => simp at hinner
  | cons piece pieces ih =>
    rw [List.forall_mem_cons] at h
    rw [List.flatten_cons] at hinner
    -- The quote stands after the first escape, or it is one of its characters.
    rcases List.append_eq_append_iff.mp hinner with ⟨later, rfl, hlater⟩ | ⟨within, hpiece, hrest⟩
    · exact (isEscapedAfter_append h.1 later).mpr (ih h.2 hlater)
    · cases within with
      | nil =>
        rw [List.append_nil] at hpiece
        rw [← hpiece, ← List.append_nil piece]
        exact (isEscapedAfter_append h.1 []).mpr (ih h.2 hrest.symm)
      | cons c within =>
        obtain ⟨rfl, -⟩ := List.cons.inj hrest
        exact isEscapedAfter_of_mem h.1 hpiece

/-! ### Quoted texts as literals -/

/-- One quote opens the literal, and not three. -/
theorem literal?_quoted (named : List Char → Option Nat) (cs : List Char)
    (hrest : rest.head? ≠ some '"') :
    literal? named (Quoted.encodeChars cs ++ rest) = some (cs.map Char.toNat, rest) := by
  have hread := read?_flatMap_escape cs rest
  -- Two quotes more could only be the closing quote of an empty literal and one that follows it.
  have hopens : ∀ more, cs.flatMap Quoted.escape ++ '"' :: rest ≠ '"' :: '"' :: more := by
    intro more heq
    rw [heq, read?] at hread
    obtain ⟨hinner, hleft⟩ := Prod.mk.inj (Option.some.inj hread)
    rw [← hleft] at hrest
    exact hrest rfl
  have hliteral : Quoted.encodeChars cs ++ rest
      = '"' :: (cs.flatMap Quoted.escape ++ '"' :: rest) := by
    simp [Quoted.encodeChars]
  rw [hliteral, literal?, hread, Option.bind_some, decodeFrom?_flatMap_escape, Option.map_some]
  exact fun more heq => hopens more heq

theorem isLiteralOf_encode (s : String) : IsLiteralOf s (Quoted.encode s).toList := by
  rw [Quoted.encode, String.toList_ofList]
  have hpieces : ∀ piece ∈ s.toList.map Quoted.escape, IsJsonCharacter piece :=
    List.forall_mem_map.mpr fun c _ => Quoted.isJsonCharacter_escape c
  refine ⟨⟨s.toList.flatMap Quoted.escape, rfl, ?_, ?_⟩, ?_⟩
  · intro c hc
    obtain ⟨piece, hpiece, hc⟩ := List.mem_flatten.mp hc
    exact le_toNat_of_isJsonCharacter (hpieces piece hpiece) c hc
  · exact fun front back hinner => isEscapedAfter_of_flatten hpieces hinner
  · exact fun named rest hrest => literal?_quoted named s.toList hrest

/-- A text as a template quotes it, and as a value among the literals of a type hint, is a literal
for this text. -/
theorem isLiteralOf_quoted (s : String) :
    IsLiteralOf s (Filter.quoted.apply (.text s)).toList ∧
    IsLiteralOf s (Literal.ofDocument (.text s)).render.toList :=
  ⟨isLiteralOf_encode s, isLiteralOf_encode s⟩

end ApiTools.Text.DoubleQuoted
