import ApiTools.Document.Json
import ApiTools.Proofs.Document.Parts
import ApiTools.Proofs.Number.Digits
import ApiTools.Proofs.Text.Quoted
import Mathlib.Data.List.DropRight

/-!
# JSON text is read back

Reading the indented text of a document gives the document and what follows the text (`readsBack`),
where all its numbers are integers and it is nested no deeper than the reader follows it.  What
follows must not go on with the digits of a number (`EndsNumber`).  The reader takes at most two
steps for each character, which is the fuel that it is given.
-/

namespace ApiTools

/-- It is an integer of 64 bits, signed or unsigned. -/
def Number.IsInteger : Number → Prop
  | .int i => -(Nat.pow 2 63 : Nat) ≤ i ∧ i ≤ (Document.maxSignificand : Nat)
  | .float _ => False

instance : DecidablePred Number.IsInteger
  | .int _ => inferInstanceAs (Decidable (_ ∧ _))
  | .float _ => instDecidableFalse

namespace Document

/-- All numbers in the document are integers. -/
def HasIntegersOnly (doc : Document) : Prop :=
  ∀ part ∈ doc.parts, ∀ number ∈ part.number?, number.IsInteger

instance (doc : Document) : Decidable doc.HasIntegersOnly :=
  inferInstanceAs (Decidable (∀ part ∈ doc.parts, _))

mutual
/-- How many lists and objects are nested in one another. -/
def nesting : Document → Nat
  | .list items => nestingOfItems items + 1
  | .object members => nestingOfMembers members + 1
  | _ => 0

/-- The greatest nesting of the items. -/
def nestingOfItems : List Document → Nat
  | [] => 0
  | item :: rest => max item.nesting (nestingOfItems rest)

/-- The greatest nesting of the values of the members. -/
def nestingOfMembers : List (String × Document) → Nat
  | [] => 0
  | (_, value) :: rest => max value.nesting (nestingOfMembers rest)
end

variable {items : List Document} {members : Members} {rest cs : List Char} {fuel depth : Nat}

theorem hasIntegersOnly_list :
    (Document.list items).HasIntegersOnly ↔ ∀ item ∈ items, item.HasIntegersOnly :=
  forall_mem_parts_list.trans (and_iff_right fun _ h => by cases h)

theorem hasIntegersOnly_object :
    (Document.object members).HasIntegersOnly ↔ ∀ entry ∈ members, entry.2.HasIntegersOnly :=
  forall_mem_parts_object.trans (and_iff_right fun _ h => by cases h)

theorem hasIntegersOnly_of_scalar {doc : Document} (h : doc.parts = [doc])
    (hnumber : doc.number? = none) : doc.HasIntegersOnly := by
  intro part hpart number hmem
  rw [h, List.mem_singleton] at hpart
  rw [hpart, hnumber] at hmem
  cases hmem

theorem nestingOfItems_le_iff {bound : Nat} :
    nestingOfItems items ≤ bound ↔ ∀ item ∈ items, item.nesting ≤ bound := by
  induction items with
  | nil => simp [nestingOfItems]
  | cons item rest ih => rw [nestingOfItems, Nat.max_le, ih, List.forall_mem_cons]

theorem nestingOfMembers_le_iff {bound : Nat} :
    nestingOfMembers members ≤ bound ↔ ∀ entry ∈ members, entry.2.nesting ≤ bound := by
  induction members with
  | nil => simp [nestingOfMembers]
  | cons entry rest ih => rw [nestingOfMembers, Nat.max_le, ih, List.forall_mem_cons]

/-! ### Numbers -/

/-- The text does not go on with what could belong to a number. -/
def EndsNumber (rest : List Char) : Prop :=
  ∀ c ∈ rest.head?, isDigit c = false ∧ c ≠ '.' ∧ c ≠ 'e' ∧ c ≠ 'E'

theorem EndsNumber.head?_map_isDigit (h : EndsNumber rest) :
    (rest.head?.map isDigit).getD false = false := by
  cases rest with
  | nil => rfl
  | cons c rest => exact (h c rfl).1

theorem EndsNumber.dropWhile_isDigit (h : EndsNumber rest) : rest.dropWhile isDigit = rest := by
  cases rest with
  | nil => rfl
  | cons c rest => rw [List.dropWhile_cons_of_neg (by simp [(h c rfl).1])]

theorem EndsNumber.takeWhile_isDigit (h : EndsNumber rest) : rest.takeWhile isDigit = [] := by
  cases rest with
  | nil => rfl
  | cons c rest => rw [List.takeWhile_cons_of_neg (by simp [(h c rfl).1])]

theorem le_foldl_digits (significand : Nat) (digits : List Char) :
    significand ≤ digits.foldl (fun n c => n * 10 + digitValue c) significand := by
  induction digits generalizing significand with
  | nil => exact Nat.le_refl _
  | cons c digits ih =>
    have h := ih (significand * 10 + digitValue c)
    rw [List.foldl_cons]
    omega

/-- Digits whose value stays within bounds are all taken. -/
theorem takeDigits_append {digits : List Char} (hdigits : ∀ c ∈ digits, isDigit c = true)
    (hrest : EndsNumber rest) {significand : Nat}
    (hmax : digits.foldl (fun n c => n * 10 + digitValue c) significand ≤ maxSignificand)
    (taken : Nat) :
    takeDigits significand taken (digits ++ rest)
      = (digits.foldl (fun n c => n * 10 + digitValue c) significand, taken + digits.length,
        rest) := by
  induction digits generalizing significand taken with
  | nil =>
    cases rest with
    | nil => rfl
    | cons c rest => simp [takeDigits, (hrest c rfl).1]
  | cons c digits ih =>
    obtain ⟨hc, hmore⟩ := List.forall_mem_cons.mp hdigits
    rw [List.foldl_cons] at hmax
    have hfits := Nat.le_trans (le_foldl_digits _ digits) hmax
    rw [List.cons_append, takeDigits, if_pos (by simp [hc, hfits]), ih hmore hmax,
      List.foldl_cons, List.length_cons]
    congr 2
    omega

/-- The digits of a number within bounds are read as this number. -/
theorem readNumber_toDigits (negative : Bool) {n : Nat} (hn : n ≤ maxSignificand)
    (hsign : negative = true → n ≠ 0 ∧ n ≤ Nat.pow 2 63) (hrest : EndsNumber rest) :
    readNumber negative (Nat.toDigits 10 n ++ rest)
      = some (.int (if negative then -n else n), rest) := by
  have hdigits : ∀ c ∈ Nat.toDigits 10 n, isDigit c = true := fun _ => isDigitChar_of_mem_toDigits
  have hvalue : (Nat.toDigits 10 n).foldl (fun n c => n * 10 + digitValue c) 0 = n :=
    digitsValue_toDigits n
  have htake := takeDigits_append hdigits hrest (hvalue.symm ▸ hn) 0
  rw [hvalue] at htake
  cases hwritten : Nat.toDigits 10 n with
  | nil => exact absurd hwritten Nat.toDigits_ne_nil
  | cons c digits =>
    rw [hwritten] at htake hdigits
    have hfirst : isDigit c = true := hdigits c (List.mem_cons_self ..)
    -- A zero in front stands alone.
    have hzero : c = '0' → ((digits ++ rest).head?.map isDigit).getD false = false := by
      rintro rfl
      have hn : n = 0 := by
        by_contra hn
        exact head?_toDigits_ne hn (by rw [hwritten]; rfl)
      rw [hn, Nat.toDigits_zero] at hwritten
      obtain rfl : [] = digits := (List.cons.inj hwritten).2
      exact hrest.head?_map_isDigit
    rw [List.cons_append] at htake ⊢
    rw [readNumber, hfirst, Bool.not_true, if_neg Bool.false_ne_true,
      if_neg (by simpa using hzero), htake]
    dsimp only
    rw [hrest.dropWhile_isDigit, hrest.takeWhile_isDigit]
    split
    · exact absurd rfl (hrest _ rfl).2.1
    · have hexponent : (rest.head? = some 'e') = False ∧ (rest.head? = some 'E') = False := by
        constructor <;> rw [eq_iff_iff, iff_false] <;> intro hhead
        · exact (hrest _ hhead).2.2.1 rfl
        · exact (hrest _ hhead).2.2.2 rfl
      cases negative with
      | false => simp [hexponent]
      | true =>
        obtain ⟨hne, hle⟩ := hsign rfl
        simp [hexponent, hne, Nat.not_lt.mpr hle]

/-! ### White space -/

theorem skipSpaces_cons {c : Char} (h : isJsonSpace c = false) (cs : List Char) :
    skipSpaces (c :: cs) = c :: cs :=
  List.dropWhile_cons_of_neg (by simp [h])

theorem isJsonSpace_of_mem_newline {level : Nat} {c : Char} (h : c ∈ newline level) :
    isJsonSpace c = true := by
  rcases List.mem_cons.mp h with rfl | hc
  · rfl
  · rw [List.eq_of_mem_replicate hc]
    rfl

theorem skipSpaces_newline (level : Nat) {c : Char} (h : isJsonSpace c = false) (cs : List Char) :
    skipSpaces (newline level ++ c :: cs) = c :: cs := by
  rw [skipSpaces, List.dropWhile_append_of_pos fun _ => isJsonSpace_of_mem_newline]
  exact skipSpaces_cons h cs

theorem endsNumber_newline (level : Nat) (cs : List Char) : EndsNumber (newline level ++ cs) := by
  rintro c hc
  obtain rfl : '\n' = c := Option.some.inj hc
  decide

theorem endsNumber_comma (cs : List Char) : EndsNumber (',' :: cs) := by
  rintro c hc
  obtain rfl : ',' = c := Option.some.inj hc
  decide

theorem readValue_spaces {spaces : List Char} (h : ∀ c ∈ spaces, isJsonSpace c = true)
    (cs : List Char) : readValue fuel depth (spaces ++ cs) = readValue fuel depth cs := by
  cases fuel with
  | zero => rfl
  | succ fuel => rw [readValue, readValue, skipSpaces, List.dropWhile_append_of_pos h, skipSpaces]

theorem readValue_newline (level : Nat) (cs : List Char) :
    readValue fuel depth (newline level ++ cs) = readValue fuel depth cs :=
  readValue_spaces (fun _ => isJsonSpace_of_mem_newline) cs

theorem readValue_skipSpaces (fuel depth : Nat) (cs : List Char) :
    readValue fuel depth (skipSpaces cs) = readValue fuel depth cs := by
  cases fuel with
  | zero => rfl
  | succ fuel => rw [readValue, readValue, skipSpaces, skipSpaces, List.dropWhile_idempotent]

/-! ### One value -/

theorem readValue_text (text : String) (rest : List Char) :
    readValue (fuel + 1) depth (Text.Quoted.encodeChars text.toList ++ rest)
      = some (.text text, rest) := by
  have hdecode := Text.Quoted.decodeFrom_flatMap_escape [] text.toList rest
  rw [Text.Quoted.encodeChars, List.append_assoc, List.cons_append, List.singleton_append,
    readValue, skipSpaces_cons rfl]
  dsimp only
  rw [if_pos rfl, hdecode, List.reverse_nil, List.nil_append, Option.map_some, String.ofList_toList]

theorem readValue_digits {c : Char} (hc : isDigit c = true) (cs : List Char) :
    readValue (fuel + 1) depth (c :: cs)
      = (readNumber false (c :: cs)).map fun (n, rest) => (.number n, rest) := by
  have hne : ∀ other, isDigit other = false → c ≠ other := by
    rintro other hother rfl
    exact Bool.false_ne_true (hother.symm.trans hc)
  have hspace : isJsonSpace c = false := by
    simp [isJsonSpace, hne ' ' rfl, hne '\n' rfl, hne '\t' rfl, hne '\r' rfl]
  rw [readValue, skipSpaces_cons hspace]
  dsimp only
  rw [if_neg (hne '"' rfl), if_neg (hne '[' rfl), if_neg (hne '\x7b' rfl), if_neg (hne 't' rfl),
    if_neg (hne 'f' rfl), if_neg (hne 'n' rfl), if_neg (hne '-' rfl)]

theorem readValue_minus (cs : List Char) :
    readValue (fuel + 1) depth ('-' :: cs)
      = (readNumber true cs).map fun (n, rest) => (.number n, rest) := by
  rw [readValue, skipSpaces_cons rfl]
  rfl

/-- The text of an integer is read as this integer. -/
theorem readValue_number {number : Number} (h : number.IsInteger) (hrest : EndsNumber rest) :
    readValue (fuel + 1) depth (number.json.toList ++ rest) = some (.number number, rest) := by
  cases number with
  | float x => exact h.elim
  | int i =>
    have hbounds : -9223372036854775808 ≤ i ∧ i ≤ 18446744073709551615 := h
    have hn : i.natAbs ≤ maxSignificand := by
      show i.natAbs ≤ 18446744073709551615
      omega
    rw [Number.json, intText]
    by_cases hnegative : i < 0
    · have hsign : true = true → i.natAbs ≠ 0 ∧ i.natAbs ≤ Nat.pow 2 63 := by
        intro _
        show i.natAbs ≠ 0 ∧ i.natAbs ≤ 9223372036854775808
        omega
      have habs : -(i.natAbs : Int) = i := by omega
      rw [if_pos hnegative, String.toList_append, List.append_assoc, toList_natText]
      show readValue (fuel + 1) depth ('-' :: (Nat.toDigits 10 i.natAbs ++ rest)) = _
      rw [readValue_minus, readNumber_toDigits true hn hsign hrest, Option.map_some, if_pos rfl,
        habs]
    · have habs : (i.natAbs : Int) = i := by omega
      have hread := readNumber_toDigits false hn (by simp) hrest
      rw [if_neg hnegative, toList_natText]
      cases hdigits : Nat.toDigits 10 i.natAbs with
      | nil => exact absurd hdigits Nat.toDigits_ne_nil
      | cons c digits =>
        have hc : isDigit c = true :=
          isDigitChar_of_mem_toDigits (hdigits ▸ List.mem_cons_self ..)
        rw [hdigits, List.cons_append] at hread
        rw [List.cons_append, readValue_digits hc, hread, Option.map_some,
          if_neg Bool.false_ne_true, habs]

/-- No value begins with a closing bracket. -/
theorem head?_ne_of_readValue {result : Document × List Char}
    (h : readValue fuel depth cs = some result) : (skipSpaces cs).head? ≠ some ']' := by
  cases fuel with
  | zero => cases h
  | succ fuel =>
    intro hhead
    cases hcs : skipSpaces cs with
    | nil =>
      rw [hcs] at hhead
      cases hhead
    | cons c rest =>
      rw [hcs] at hhead
      obtain rfl : c = ']' := Option.some.inj hhead
      rw [readValue, hcs] at h
      cases h

theorem head?_ne_of_readItems {result : List Document × List Char}
    (h : readItems fuel depth cs = some result) : (skipSpaces cs).head? ≠ some ']' := by
  cases fuel with
  | zero => cases h
  | succ fuel =>
    rw [readItems] at h
    split at h
    · cases h
    · rename_i hvalue
      exact head?_ne_of_readValue hvalue

theorem readItems_skipSpaces (fuel depth : Nat) (cs : List Char) :
    readItems fuel depth (skipSpaces cs) = readItems fuel depth cs := by
  cases fuel with
  | zero => rfl
  | succ fuel => rw [readItems, readItems, readValue_skipSpaces]

theorem readMembers_skipSpaces (fuel depth : Nat) (cs : List Char) :
    readMembers fuel depth (skipSpaces cs) = readMembers fuel depth cs := by
  cases fuel with
  | zero => rfl
  | succ fuel => rw [readMembers, readMembers, skipSpaces, skipSpaces, List.dropWhile_idempotent]

theorem head?_ne_of_readMembers {result : List (String × Document) × List Char}
    (h : readMembers fuel depth cs = some result) : (skipSpaces cs).head? ≠ some '\x7d' := by
  cases fuel with
  | zero => cases h
  | succ fuel =>
    rw [readMembers] at h
    split at h
    · rename_i hcs
      rw [hcs]
      simp
    · cases h

/-- A list is read where its items are, of which there must be one. -/
theorem readValue_list (h : readItems fuel depth cs = some (items, rest)) :
    readValue (fuel + 1) (depth + 1) ('[' :: cs) = some (.list items, rest) := by
  have hhead := head?_ne_of_readItems h
  rw [← readItems_skipSpaces] at h
  rw [readValue, skipSpaces_cons rfl]
  dsimp only
  rw [if_neg (by decide), if_pos rfl]
  split
  · rename_i hclose
    rw [hclose] at hhead
    exact absurd rfl hhead
  · rw [h]
    rfl

theorem readValue_object (h : readMembers fuel depth cs = some (members, rest)) :
    readValue (fuel + 1) (depth + 1) ('\x7b' :: cs) = some (.object members, rest) := by
  have hhead := head?_ne_of_readMembers h
  rw [← readMembers_skipSpaces] at h
  rw [readValue, skipSpaces_cons rfl]
  dsimp only
  rw [if_neg (by decide), if_neg (by decide), if_pos rfl]
  split
  · rename_i hclose
    rw [hclose] at hhead
    exact absurd rfl hhead
  · rw [h]
    rfl

/-! ### Documents -/

/-- The lines of texts between brackets, with a comma after each but the last. -/
def lines (level : Nat) (parts : List (List Char)) : List Char :=
  commaSeparated (parts.map (newline level ++ ·))

theorem lines_singleton (level : Nat) (part : List Char) :
    lines level [part] = newline level ++ part := rfl

theorem bracketed_cons (opening closing : Char) (level : Nat) (first : List Char)
    (parts : List (List Char)) :
    bracketed opening closing level (first :: parts)
      = opening :: (lines (level + 1) (first :: parts) ++ (newline level ++ [closing])) := by
  rw [bracketed, List.append_assoc]
  · rfl
  · exact List.cons_ne_nil _ _

/-- The text of a member. -/
def memberChars (level : Nat) (entry : String × Document) : List Char :=
  Text.Quoted.encodeChars entry.1.toList ++ ':' :: ' ' :: prettyChars level entry.2

/-- The text of a document is read back as the document. -/
def ReadsBack (level : Nat) (doc : Document) : Prop :=
  ∀ fuel depth rest, 2 * (prettyChars level doc).length ≤ fuel → doc.nesting ≤ depth →
    EndsNumber rest → readValue fuel depth (prettyChars level doc ++ rest) = some (doc, rest)

/-- Items that are read back are read back line by line. -/
theorem readItems_lines {level : Nat} {first : Document} {items : List Document}
    (h : ∀ item ∈ first :: items, ReadsBack level item ∧ item.nesting ≤ depth) (below : Nat)
    (rest : List Char)
    (hfuel : 2 * (lines level (prettyItems level (first :: items))).length < fuel) :
    readItems fuel depth (lines level (prettyItems level (first :: items))
        ++ (newline below ++ ']' :: rest)) = some (first :: items, rest) := by
  induction items generalizing first fuel with
  | nil =>
    obtain ⟨hfirst, hdepth⟩ := h first (List.mem_cons_self ..)
    rw [prettyItems, prettyItems, lines_singleton, List.length_append] at hfuel
    obtain ⟨fuel, rfl⟩ : ∃ n, fuel = n + 1 := ⟨fuel - 1, by omega⟩
    have hvalue := hfirst fuel depth (newline below ++ ']' :: rest) (by omega) hdepth
      (endsNumber_newline below _)
    rw [prettyItems, prettyItems, lines_singleton, List.append_assoc, readItems,
      readValue_newline, hvalue]
    dsimp only
    rw [skipSpaces_newline below rfl]
    rfl
  | cons second items ih =>
    obtain ⟨⟨hfirst, hdepth⟩, hmore⟩ := List.forall_mem_cons.mp h
    have htext : lines level (prettyItems level (first :: second :: items))
        = newline level ++ prettyChars level first
          ++ ',' :: lines level (prettyItems level (second :: items)) := rfl
    rw [htext] at hfuel ⊢
    rw [List.length_append, List.length_append, List.length_cons] at hfuel
    obtain ⟨fuel, rfl⟩ : ∃ n, fuel = n + 1 := ⟨fuel - 1, by omega⟩
    have hvalue := hfirst fuel depth
      (',' :: lines level (prettyItems level (second :: items)) ++ (newline below ++ ']' :: rest))
      (by omega) hdepth (endsNumber_comma _)
    -- The first item takes a line break and a comma, which leave enough steps for the others.
    have hless : 2 * (lines level (prettyItems level (second :: items))).length < fuel := by omega
    have hitems := ih hmore hless
    rw [List.append_assoc, List.append_assoc, readItems, readValue_newline, hvalue]
    dsimp only
    rw [List.cons_append, skipSpaces_cons rfl]
    show (readItems fuel depth _).map _ = _
    rw [hitems, Option.map_some]

/-- What is read of the members from one on, by what stands behind its value. -/
def membersAfter (fuel depth : Nat) (entry : String × Document) :
    List Char → Option (Members × List Char)
  | ',' :: rest => (readMembers fuel depth rest).map fun (entries, rest) => (entry :: entries, rest)
  | '\x7d' :: rest => some ([entry], rest)
  | _ => none

/-- A member is read up to what stands behind its value. -/
theorem readMembers_member {level below : Nat} {entry : String × Document}
    (h : ReadsBack level entry.2) (hdepth : entry.2.nesting ≤ depth)
    (hfuel : 2 * (memberChars level entry).length ≤ fuel) (hrest : EndsNumber rest) :
    readMembers (fuel + 1) depth (newline below ++ (memberChars level entry ++ rest))
      = membersAfter fuel depth entry (skipSpaces rest) := by
  have htext : memberChars level entry ++ rest = '"' :: (entry.1.toList.flatMap Text.Quoted.escape
      ++ '"' :: ':' :: ([' '] ++ (prettyChars level entry.2 ++ rest))) := by
    rw [memberChars, Text.Quoted.encodeChars]
    simp only [List.append_assoc, List.cons_append, List.nil_append]
  have hlength : 2 * (prettyChars level entry.2).length ≤ fuel := by
    rw [memberChars, List.length_append, List.length_cons, List.length_cons] at hfuel
    omega
  have hvalue := h fuel depth rest hlength hdepth hrest
  have hspace : ∀ c ∈ [' '], isJsonSpace c = true := by
    intro c hc
    rw [List.mem_singleton.mp hc]
    rfl
  have hcolon : isJsonSpace ':' = false := rfl
  rw [htext, readMembers, skipSpaces_newline below rfl]
  simp only [Text.Quoted.decodeFrom_flatMap_escape, List.reverse_nil, List.nil_append,
    skipSpaces_cons hcolon, readValue_spaces hspace, hvalue, String.ofList_toList]
  rfl

/-- Members whose values are read back are read back line by line. -/
theorem readMembers_lines {level : Nat} {first : String × Document} {members : Members}
    (h : ∀ entry ∈ first :: members, ReadsBack level entry.2 ∧ entry.2.nesting ≤ depth)
    (below : Nat) (rest : List Char)
    (hfuel : 2 * (lines level (prettyMembers level (first :: members))).length < fuel) :
    readMembers fuel depth (lines level (prettyMembers level (first :: members))
        ++ (newline below ++ '\x7d' :: rest)) = some (first :: members, rest) := by
  induction members generalizing first fuel with
  | nil =>
    obtain ⟨hfirst, hdepth⟩ := h first (List.mem_cons_self ..)
    have htext : lines level (prettyMembers level [first])
        = newline level ++ memberChars level first := rfl
    rw [htext, List.length_append] at hfuel
    obtain ⟨fuel, rfl⟩ : ∃ n, fuel = n + 1 := ⟨fuel - 1, by omega⟩
    rw [htext, List.append_assoc, readMembers_member hfirst hdepth (by omega)
      (endsNumber_newline below _), skipSpaces_newline below rfl]
    rfl
  | cons second members ih =>
    obtain ⟨⟨hfirst, hdepth⟩, hmore⟩ := List.forall_mem_cons.mp h
    have htext : lines level (prettyMembers level (first :: second :: members))
        = newline level ++ memberChars level first
          ++ ',' :: lines level (prettyMembers level (second :: members)) := rfl
    rw [htext] at hfuel ⊢
    rw [List.length_append, List.length_append, List.length_cons] at hfuel
    obtain ⟨fuel, rfl⟩ : ∃ n, fuel = n + 1 := ⟨fuel - 1, by omega⟩
    have hless : 2 * (lines level (prettyMembers level (second :: members))).length < fuel := by
      omega
    have hmembers := ih hmore hless
    rw [List.append_assoc, List.append_assoc, List.cons_append,
      readMembers_member hfirst hdepth (by omega) (endsNumber_comma _), skipSpaces_cons rfl]
    show (readMembers fuel depth _).map _ = _
    rw [hmembers, Option.map_some]

theorem readsBack_list {level : Nat} (h : ∀ item ∈ items, ReadsBack (level + 1) item) :
    ReadsBack level (.list items) := by
  intro fuel depth rest hfuel hdepth _
  obtain ⟨depth, rfl⟩ : ∃ n, depth = n + 1 := ⟨depth - 1, by rw [nesting] at hdepth; omega⟩
  rw [nesting, Nat.add_le_add_iff_right] at hdepth
  cases items with
  | nil =>
    obtain ⟨fuel, rfl⟩ : ∃ n, fuel = n + 1 := ⟨fuel - 1, by
      have hlength : 2 * 2 ≤ fuel := hfuel
      omega⟩
    rfl
  | cons first items =>
    have htext : prettyChars level (.list (first :: items))
        = '[' :: (lines (level + 1) (prettyItems (level + 1) (first :: items))
          ++ (newline level ++ [']'])) := by
      rw [prettyChars, prettyItems, bracketed_cons]
    rw [htext, List.length_cons, List.length_append] at hfuel
    obtain ⟨fuel, rfl⟩ : ∃ n, fuel = n + 1 := ⟨fuel - 1, by omega⟩
    rw [htext, List.cons_append, List.append_assoc, List.append_assoc, List.singleton_append]
    have hitems : ∀ item ∈ first :: items, ReadsBack (level + 1) item ∧ item.nesting ≤ depth :=
      fun item hitem => ⟨h item hitem, nestingOfItems_le_iff.mp hdepth item hitem⟩
    exact readValue_list (readItems_lines hitems level rest (by omega))

theorem readsBack_object {level : Nat} (h : ∀ entry ∈ members, ReadsBack (level + 1) entry.2) :
    ReadsBack level (.object members) := by
  intro fuel depth rest hfuel hdepth _
  obtain ⟨depth, rfl⟩ : ∃ n, depth = n + 1 := ⟨depth - 1, by rw [nesting] at hdepth; omega⟩
  rw [nesting, Nat.add_le_add_iff_right] at hdepth
  cases members with
  | nil =>
    obtain ⟨fuel, rfl⟩ : ∃ n, fuel = n + 1 := ⟨fuel - 1, by
      have hlength : 2 * 2 ≤ fuel := hfuel
      omega⟩
    rfl
  | cons first members =>
    have htext : prettyChars level (.object (first :: members))
        = '\x7b' :: (lines (level + 1) (prettyMembers (level + 1) (first :: members))
          ++ (newline level ++ ['\x7d'])) := by
      rw [prettyChars, prettyMembers, bracketed_cons]
    rw [htext, List.length_cons, List.length_append] at hfuel
    obtain ⟨fuel, rfl⟩ : ∃ n, fuel = n + 1 := ⟨fuel - 1, by omega⟩
    rw [htext, List.cons_append, List.append_assoc, List.append_assoc, List.singleton_append]
    have hmembers : ∀ entry ∈ first :: members,
        ReadsBack (level + 1) entry.2 ∧ entry.2.nesting ≤ depth :=
      fun entry hentry => ⟨h entry hentry, nestingOfMembers_le_iff.mp hdepth entry hentry⟩
    exact readValue_object (readMembers_lines hmembers level rest (by omega))

theorem readsBack_scalar {level : Nat} {doc : Document}
    (h : ∀ fuel depth rest, EndsNumber rest →
      readValue (fuel + 1) depth (prettyChars level doc ++ rest) = some (doc, rest)) :
    ReadsBack level doc := by
  have hne : prettyChars level doc ≠ [] := by
    intro hnil
    have hread := h 0 0 [] (fun _ hc => by cases hc)
    rw [hnil] at hread
    cases hread
  have hlength := List.length_pos_iff.mpr hne
  intro fuel depth rest hfuel _ hrest
  obtain ⟨fuel, rfl⟩ : ∃ n, fuel = n + 1 := ⟨fuel - 1, by omega⟩
  exact h fuel depth rest hrest

mutual
/-- A document whose numbers are integers is read back from its text. -/
theorem readsBack (level : Nat) : (doc : Document) → doc.HasIntegersOnly → ReadsBack level doc
  | .list items, h => readsBack_list (readsBack_items (level + 1) items (hasIntegersOnly_list.mp h))
  | .object members, h =>
    readsBack_object (readsBack_members (level + 1) members (hasIntegersOnly_object.mp h))
  | .number n, h => by
    have hinteger : n.IsInteger := h _ (self_mem_parts _) n rfl
    exact readsBack_scalar fun _ _ _ => readValue_number hinteger
  | .text s, _ => readsBack_scalar fun _ _ rest _ => readValue_text s rest
  | .null, _ | .bool true, _ | .bool false, _ => readsBack_scalar fun _ _ _ _ => rfl

theorem readsBack_items (level : Nat) : (items : List Document) →
    (∀ item ∈ items, item.HasIntegersOnly) → ∀ item ∈ items, ReadsBack level item
  | [], _, _, hitem => by cases hitem
  | first :: rest, h, item, hitem => by
    rcases List.mem_cons.mp hitem with heq | hrest
    · rw [heq]
      exact readsBack level first (h first (List.mem_cons_self ..))
    · exact readsBack_items level rest (fun other hother => h other (List.mem_cons_of_mem _ hother))
        item hrest

theorem readsBack_members (level : Nat) : (members : Members) →
    (∀ entry ∈ members, entry.2.HasIntegersOnly) → ∀ entry ∈ members, ReadsBack level entry.2
  | [], _, _, hentry => by cases hentry
  | first :: rest, h, entry, hentry => by
    rcases List.mem_cons.mp hentry with heq | hrest
    · rw [heq]
      exact readsBack level first.2 (h first (List.mem_cons_self ..))
    · exact readsBack_members level rest
        (fun other hother => h other (List.mem_cons_of_mem _ hother)) entry hrest
end

/-- The indented text of a document is read as the document. -/
theorem entriesOfJson?_pretty {doc : Document} {depth : Nat} (hintegers : doc.HasIntegersOnly)
    (hdepth : doc.nesting ≤ depth) : entriesOfJson? depth doc.pretty = some doc := by
  have hread := readsBack 0 doc hintegers (2 * (prettyChars 0 doc).length + 2) depth [] (by omega)
    hdepth (fun _ hc => by cases hc)
  rw [List.append_nil] at hread
  rw [entriesOfJson?, pretty, String.toList_ofList, hread]
  rfl

end Document

end ApiTools
