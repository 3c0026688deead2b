import ApiTools.JsonPath.Read
import ApiTools.Proofs.Number.Digits
import ApiTools.Proofs.Text.Trimmed

/-!
# The grammar of paths

`Item` says which characters are one segment of a path, and `Items` which are a list of them.
`readSegments_of_items` says that the reader takes whatever the grammar allows, for the segments
that the grammar gives it.  The fuel of the reader only has to be no less than the number of
segments, which the number of characters never is.
-/

namespace ApiTools.JsonPath

/-! ### The grammar -/

/-- The characters between two quotes are written for those of a key.  A backslash makes the next
character literal, whatever it is. -/
inductive Quoted (quote : Char) : (written key : List Char) → Prop where
  | nil : Quoted quote [] []
  | plain {c : Char} {written key : List Char} (hbackslash : c ≠ '\\') (hquote : c ≠ quote)
    (h : Quoted quote written key) : Quoted quote (c :: written) (c :: key)
  | escaped {c : Char} {written key : List Char} (h : Quoted quote written key) :
    Quoted quote ('\\' :: c :: written) (c :: key)

/-- The two characters that may stand around a key. -/
def IsQuote (c : Char) : Prop := c = '\'' ∨ c = '"'

/-- Quoted keys with commas between them, up to the closing bracket.  Spaces may stand around a
comma and before the bracket. -/
inductive KeyList : (written : List Char) → (names : List String) → Prop where
  | last {quote : Char} {written key : List Char} (hquote : IsQuote quote)
    (h : Quoted quote written key) (spaces : Nat) :
    KeyList (quote :: (written ++ quote :: (List.replicate spaces ' ' ++ [']'])))
      [String.ofList key]
  | more {quote : Char} {written key rest : List Char} {names : List String}
    (hquote : IsQuote quote) (h : Quoted quote written key) (before after : Nat)
    (hrest : KeyList rest names) :
    KeyList (quote :: (written ++ quote ::
        (List.replicate before ' ' ++ ',' :: (List.replicate after ' ' ++ rest))))
      (String.ofList key :: names)

/-- The characters of one segment. -/
inductive Item : (written : List Char) → Segment → Prop where
  | name {name : List Char} (hne : name ≠ []) (h : ∀ c ∈ name, isNameChar c = true) :
    Item ('.' :: name) (namedSegment name)
  | wildcard : Item ['[', '*', ']'] .wildcard
  | index {digits : List Char} {position : Nat} (h : positionOfDigits? digits = some position) :
    Item ('[' :: (digits ++ [']'])) (.index position)
  | keys {written : List Char} {names : List String} (h : KeyList written names) :
    Item ('[' :: written) (keysSegment names)

/-- The characters of a list of segments. -/
inductive Items : (written : List Char) → List Segment → Prop where
  | nil : Items [] []
  | cons {written rest : List Char} {segment : Segment} {segments : List Segment}
    (h : Item written segment) (hrest : Items rest segments) :
    Items (written ++ rest) (segment :: segments)

/-! ### Keys -/

theorem IsQuote.ne_backslash {c : Char} (h : IsQuote c) : c ≠ '\\' := by
  rcases h with rfl | rfl <;> decide

theorem IsQuote.ne_space {c : Char} (h : IsQuote c) : c ≠ ' ' := by
  rcases h with rfl | rfl <;> decide

theorem readKey_of_quoted {quote : Char} (hquote : quote ≠ '\\') {written key : List Char}
    (h : Quoted quote written key) (done rest : List Char) :
    readKey quote done (written ++ quote :: rest) = .ok (done.reverse ++ key, rest) := by
  induction h generalizing done with
  | nil =>
    rw [List.nil_append, List.append_nil, readKey.eq_4 quote done quote rest
      (fun h => absurd h hquote) (fun _ _ h => absurd h hquote), if_pos rfl]
  | @plain c written key hbackslash hne _ ih =>
    rw [List.cons_append, readKey.eq_4 quote done c _ (fun h => absurd h hbackslash)
      (fun _ _ h => absurd h hbackslash), if_neg hne, ih]
    simp
  | @escaped c written key _ ih =>
    rw [List.cons_append, List.cons_append, readKey, ih]
    simp

theorem skipSpaces_replicate (n : Nat) {c : Char} (hc : c ≠ ' ') (rest : List Char) :
    skipSpaces (List.replicate n ' ' ++ c :: rest) = c :: rest := by
  unfold skipSpaces
  rw [List.dropWhile_append_of_pos (by simp +contextual [List.mem_replicate]),
    List.dropWhile_cons_of_neg (by simpa using hc)]

/-- A list of keys begins with a quote. -/
theorem KeyList.head {written : List Char} {names : List String} (h : KeyList written names) :
    ∃ quote rest, written = quote :: rest ∧ IsQuote quote := by
  cases h with
  | last hquote _ _ => exact ⟨_, _, rfl, hquote⟩
  | more hquote _ _ _ _ => exact ⟨_, _, rfl, hquote⟩

theorem KeyList.length_le {written : List Char} {names : List String} (h : KeyList written names) :
    names.length ≤ written.length := by
  induction h with
  | last => simp
  | more _ _ _ _ _ ih =>
    simp only [List.length_cons, List.length_append]
    omega

theorem readKeys_of_keyList {written : List Char} {names : List String} (h : KeyList written names)
    {fuel : Nat} (hfuel : names.length ≤ fuel) (rest : List Char) :
    readKeys fuel (written ++ rest) = .ok (names, rest) := by
  induction h generalizing fuel with
  | @last quote written key hquote hkey spaces =>
    obtain ⟨fuel, rfl⟩ := Nat.exists_eq_add_of_le' hfuel
    have hread := readKey_of_quoted hquote.ne_backslash hkey []
      (List.replicate spaces ' ' ++ ']' :: rest)
    simp only [List.length_singleton, List.cons_append, List.append_assoc, List.nil_append,
      readKeys]
    rw [if_pos (by simpa [IsQuote] using hquote), hread]
    simp only [skipSpaces_replicate spaces (by decide : (']' : Char) ≠ ' '), List.reverse_nil,
      List.nil_append]
  | @more quote written key others names hquote hkey before after hrest ih =>
    rw [List.length_cons] at hfuel
    obtain ⟨fuel, rfl⟩ : ∃ n, fuel = n + 1 := ⟨fuel - 1, by omega⟩
    -- The blanks after the comma end where the quote of the next key stands.
    obtain ⟨first, tail, rfl, hfirst⟩ := hrest.head
    have hread := readKey_of_quoted hquote.ne_backslash hkey []
      (List.replicate before ' ' ++ ',' :: (List.replicate after ' ' ++ (first :: tail ++ rest)))
    simp only [List.cons_append, List.append_assoc, readKeys] at hread ⊢
    rw [if_pos (by simpa [IsQuote] using hquote), hread]
    have hmore := @ih fuel (by omega)
    rw [List.cons_append] at hmore
    simp only [skipSpaces_replicate before (by decide : (',' : Char) ≠ ' '),
      skipSpaces_replicate after hfirst.ne_space, hmore, List.reverse_nil, List.nil_append]

/-! ### Segments -/

theorem isDigitChar_of_positionOfDigits? {digits : List Char} {position : Nat}
    (h : positionOfDigits? digits = some position) :
    digits ≠ [] ∧ ∀ c ∈ digits, isDigitChar c = true := by
  unfold positionOfDigits? at h
  rw [Option.ite_none_right_eq_some, Bool.and_eq_true, Bool.and_eq_true] at h
  simpa using h.1.1

theorem readIndex_of_digits {digits : List Char} {position : Nat}
    (h : positionOfDigits? digits = some position) (rest : List Char) :
    readIndex (digits ++ ']' :: rest) = .ok (.index position, rest) := by
  have hdigits := (isDigitChar_of_positionOfDigits? h).2
  have hclose : ¬ isDigitChar ']' = true := by decide
  unfold readIndex
  rw [List.dropWhile_append_of_pos hdigits, List.takeWhile_append_of_pos hdigits,
    List.dropWhile_cons_of_neg hclose, List.takeWhile_cons_of_neg hclose, List.append_nil]
  simp only [h]

/-- The reader reads the inside of brackets up to the closing one. -/
theorem readBracket_of_item {written : List Char} {segment : Segment}
    (h : Item ('[' :: written) segment) (rest : List Char) :
    readBracket (written ++ rest) = .ok (segment, rest) := by
  cases h with
  | wildcard => rfl
  | @index digits position h =>
    obtain ⟨hne, hdigits⟩ := isDigitChar_of_positionOfDigits? h
    have hread := readIndex_of_digits h rest
    -- The first digit is neither the wildcard nor a quote, so the reader takes a position.
    obtain ⟨c, cs, rfl⟩ := List.exists_cons_of_ne_nil hne
    have hc : isDigitChar c = true := hdigits c (List.mem_cons_self ..)
    have hstar : c ≠ '*' := by
      rintro rfl
      exact absurd hc (by decide)
    have hquote : ¬ (c = '\'' ∨ c = '"') := by
      rintro (rfl | rfl) <;> exact absurd hc (by decide)
    simp only [List.append_assoc, List.cons_append, List.nil_append] at hread ⊢
    unfold readBracket
    split
    · rename_i heq
      cases heq
    · rename_i heq
      exact absurd (List.cons.inj heq).1 hstar
    · rename_i heq
      cases heq
      rw [if_neg (by simpa using hquote), if_pos hc, hread]
  | @keys _ names h =>
    obtain ⟨quote, tail, rfl, hquote⟩ := h.head
    have hlength : names.length ≤ (quote :: tail ++ rest).length := by
      rw [List.length_append]
      exact Nat.le_add_right_of_le h.length_le
    have hread := readKeys_of_keyList h hlength rest
    have hstar : quote ≠ '*' := by rcases hquote with rfl | rfl <;> decide
    unfold readBracket
    split
    · rename_i heq
      cases heq
    · rename_i heq
      exact absurd (List.cons.inj heq).1 hstar
    · rename_i heq
      cases heq
      rw [if_pos (by simpa [IsQuote] using hquote), hread]
      rfl

/-- What follows a segment is nothing, or begins with a point or a bracket. -/
theorem Items.head {written : List Char} {segments : List Segment} (h : Items written segments) :
    written = [] ∨ ∃ c rest, written = c :: rest ∧ isNameChar c = false := by
  cases h with
  | nil => exact .inl rfl
  | cons h _ =>
    right
    cases h with
    | name => exact ⟨'.', _, rfl, by decide⟩
    | wildcard => exact ⟨'[', _, rfl, by decide⟩
    | index => exact ⟨'[', _, rfl, by decide⟩
    | keys => exact ⟨'[', _, rfl, by decide⟩

/-- A name ends where the next segment begins. -/
theorem span_name {name rest : List Char} {segments : List Segment}
    (hname : ∀ c ∈ name, isNameChar c = true) (hrest : Items rest segments) :
    (name ++ rest).takeWhile isNameChar = name ∧ (name ++ rest).dropWhile isNameChar = rest := by
  rw [List.takeWhile_append_of_pos hname, List.dropWhile_append_of_pos hname]
  rcases hrest.head with rfl | ⟨c, tail, rfl, hc⟩
  · simp
  · rw [List.takeWhile_cons_of_neg (by simp [hc]), List.dropWhile_cons_of_neg (by simp [hc])]
    simp

/-- A bracket begins a segment that `readBracket` reads. -/
theorem readSegments_bracket (fuel : Nat) (cs : List Char) :
    readSegments (fuel + 1) ('[' :: cs)
      = match readBracket cs with
        | .error e => .error e
        | .ok (segment, rest) => (readSegments fuel rest).map (segment :: ·) := by
  rw [readSegments.eq_def]
  rfl

/-- One step of the reader takes one segment. -/
theorem readSegments_cons {written rest : List Char} {segment : Segment} {segments : List Segment}
    (h : Item written segment) (hrest : Items rest segments) (fuel : Nat) :
    readSegments (fuel + 1) (written ++ rest) = (readSegments fuel rest).map (segment :: ·) := by
  cases hitem : h with
  | @name name hne hname =>
    obtain ⟨htake, hdrop⟩ := span_name hname hrest
    -- A second point would begin a segment of another kind.
    have hpoint : ∀ tail, name ++ rest = '.' :: tail → False := by
      intro tail heq
      obtain ⟨c, cs, rfl⟩ := List.exists_cons_of_ne_nil hne
      have hc := hname c (List.mem_cons_self ..)
      rw [(List.cons.inj heq).1] at hc
      exact absurd hc (by decide)
    rw [List.cons_append, readSegments.eq_4 _ _ _ hpoint, if_pos rfl, htake, hdrop]
    exact if_neg (by simpa using hne)
  | wildcard => rw [List.cons_append, readSegments_bracket, readBracket_of_item h]
  | index => rw [List.cons_append, readSegments_bracket, readBracket_of_item h]
  | keys => rw [List.cons_append, readSegments_bracket, readBracket_of_item h]

/-- The reader takes whatever the grammar allows. -/
theorem readSegments_of_items {written : List Char} {segments : List Segment}
    (h : Items written segments) {fuel : Nat} (hfuel : segments.length ≤ fuel) :
    readSegments fuel written = .ok segments := by
  induction h generalizing fuel with
  | nil => cases fuel <;> rfl
  | cons hitem hrest ih =>
    rw [List.length_cons] at hfuel
    obtain ⟨fuel, rfl⟩ : ∃ n, fuel = n + 1 := ⟨fuel - 1, by omega⟩
    rw [readSegments_cons hitem hrest, ih (by omega)]
    rfl

theorem Item.ne_nil {written : List Char} {segment : Segment} (h : Item written segment) :
    written ≠ [] := by
  cases h <;> simp

theorem Items.length_le {written : List Char} {segments : List Segment}
    (h : Items written segments) : segments.length ≤ written.length := by
  induction h with
  | nil => simp
  | cons hitem _ ih =>
    have hpos := List.length_pos_of_ne_nil hitem.ne_nil
    rw [List.length_append, List.length_cons]
    omega

/-! ### The whole text -/

/-- Characters that neither begin nor end with a blank one have none at either end. -/
theorem trimChars_eq_self {cs : List Char} (hhead : ∀ c ∈ cs.head?, Text.isBlank c = false)
    (hlast : ∀ c ∈ cs.getLast?, Text.isBlank c = false) : Text.trimChars cs = cs :=
  Text.trimBy_eq_self hhead hlast

/-- A text is read as a path where, without the blanks around it, it is `$` and segments. -/
theorem read_of_items {text : String} {written : List Char} {segments : List Segment}
    (htext : Text.trimChars text.toList = '$' :: written) (h : Items written segments) :
    read text = .ok ⟨segments⟩ := by
  unfold read
  rw [htext]
  show (readSegments written.length written).map JsonPath.mk = _
  rw [readSegments_of_items h h.length_le]
  rfl

/-! ### Segments as they are written for a key or a position -/

/-- The digits of a position that is not too great denote it. -/
theorem positionOfDigits?_natText {position : Nat} (h : position ≤ maxPosition) :
    positionOfDigits? (natText position).toList = some position := by
  have hdigits : Nat.toDigits 10 position ≠ [] ∧
      ∀ c ∈ Nat.toDigits 10 position, isDigitChar c = true :=
    ⟨Nat.toDigits_ne_nil, fun _ => isDigitChar_of_mem_toDigits⟩
  unfold positionOfDigits?
  rw [toList_natText, digitsValue_toDigits, if_pos]
  simpa [h] using hdigits

theorem item_index {position : Nat} (h : position ≤ maxPosition) :
    Item ('[' :: ((natText position).toList ++ [']'])) (.index position) :=
  .index (positionOfDigits?_natText h)

/-- A name that needs no quotes. -/
def IsName (name : String) : Prop :=
  name ≠ "" ∧ name ≠ "*" ∧ name.toList.all isNameChar = true

instance (name : String) : Decidable (IsName name) :=
  inferInstanceAs (Decidable (name ≠ "" ∧ name ≠ "*" ∧ name.toList.all isNameChar = true))

theorem item_name {name : String} (h : IsName name) : Item ('.' :: name.toList) (.key name) := by
  obtain ⟨hne, hstar, hchars⟩ := h
  have hsegment : namedSegment name.toList = .key name := by
    unfold namedSegment
    rw [if_neg, String.ofList_toList]
    intro heq
    exact hstar (String.toList_inj.mp heq)
  rw [← hsegment]
  exact .name (by simpa using hne) (List.all_eq_true.mp hchars)

end ApiTools.JsonPath
