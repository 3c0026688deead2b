import ApiTools.Proofs.Text.Placeholders
import ApiTools.Template
import Mathlib.Data.List.DropRight
import Mathlib.Tactic.IntervalCases

/-!
# Texts inside of triple quotes

`TripleQuoted.read?` reads a literal after its opening quotes, up to three quotes none of which a
backslash protects.  A text is read from the left as triples of quotes and as other characters with
at most two quotes before them (`taken`); these pieces, protected as `docstringText` does it, stay
inside of the literal.  At most two quotes are left at the end, where they make up the first three
quotes together with those that should close the literal (`read?_guarded`).
-/

namespace ApiTools.Text.TripleQuoted

/-- Three double quotes, which open a literal and close it. -/
def quotes : List Char := ['"', '"', '"']

/-- Reads a literal whose opening quotes have been read: the inside of it, and what follows the
closing quotes.  A backslash protects the character after it. -/
def read? : List Char → Option (List Char × List Char)
  | [] => none
  | '"' :: '"' :: '"' :: rest => some ([], rest)
  | '\\' :: c :: rest => (read? rest).map fun found => ('\\' :: c :: found.1, found.2)
  | c :: rest => (read? rest).map fun found => (c :: found.1, found.2)

/-- The number of double quotes in which the characters end. -/
def endingQuotes (cs : List Char) : Nat := (cs.rtakeWhile (· == '"')).length

/-- A character, or two for a backslash. -/
def doubled (c : Char) : List Char := if c = '\\' then ['\\', '\\'] else [c]

/-- Three quotes with a backslash before each. -/
def protectedQuotes : List Char := ['\\', '"', '\\', '"', '\\', '"']

/-- The characters as they stand inside of triple quotes. -/
def guarded (cs : List Char) : List Char :=
  replaceFrom quotes protectedQuotes 0 (cs.flatMap doubled)

variable {c : Char} {cs ds : List Char} {n : Nat}

/-! ### The pieces of a text -/

/-- A text is read from the left as three quotes, or as another character after at most two; at most
two quotes are left at the end. -/
inductive Taken : List Char → Prop
  | few {n : Nat} (hn : n < 3) : Taken (List.replicate n '"')
  | quotes {cs : List Char} (h : Taken cs) : Taken (quotes ++ cs)
  | char {n : Nat} {c : Char} {cs : List Char} (hn : n < 3) (hc : c ≠ '"') (h : Taken cs) :
    Taken (List.replicate n '"' ++ c :: cs)

theorem taken (cs : List Char) : Taken cs := by
  induction hlength : cs.length using Nat.strongRecOn generalizing cs with
  | ind length ih =>
    have hshorter : ∀ rest : List Char, rest.length < cs.length → Taken rest :=
      fun rest hrest => ih rest.length (hlength ▸ hrest) rest rfl
    match cs with
    | [] => exact .few (n := 0) (by decide)
    | c :: rest =>
      by_cases hc : c = '"'
      · subst hc
        match rest with
        | [] => exact .few (n := 1) (by decide)
        | d :: rest =>
          by_cases hd : d = '"'
          · subst hd
            match rest with
            | [] => exact .few (n := 2) (by decide)
            | e :: rest =>
              have htaken := hshorter rest (by grind)
              by_cases he : e = '"'
              · subst he
                exact .quotes htaken
              · exact .char (n := 2) (by decide) he htaken
          · exact .char (n := 1) (by decide) hd (hshorter rest (by grind))
      · exact .char (n := 0) (by decide) hc (hshorter rest (by simp))

/-! ### Quotes at the end -/

theorem endingQuotes_replicate (n : Nat) : endingQuotes (List.replicate n '"') = n := by
  simp [endingQuotes, List.rtakeWhile]

/-- Only what comes after the last other character is at the end. -/
theorem rtakeWhile_append_cons {p : Char → Bool} (hc : p c = false) (front cs : List Char) :
    (front ++ c :: cs).rtakeWhile p = cs.rtakeWhile p := by
  have hstop : ([c] ++ front.reverse).takeWhile p = [] :=
    List.takeWhile_cons_of_neg (by simpa using hc)
  unfold List.rtakeWhile
  rw [List.reverse_append, List.reverse_cons, List.append_assoc, List.takeWhile_append, hstop]
  split_ifs with hall
  · rw [List.append_nil, (List.takeWhile_prefix _).eq_of_length hall]
  · rfl

/-- A group put before a text adds nothing to what is at the end, or one group. -/
theorem length_rtakeWhile_append_mod {p : Char → Bool} {group : List Char}
    (hgroup : ∀ c ∈ group, p c = true) (cs : List Char) :
    ((group ++ cs).rtakeWhile p).length % group.length
      = (cs.rtakeWhile p).length % group.length := by
  have htake : group.reverse.takeWhile p = group.reverse :=
    List.takeWhile_eq_self_iff.mpr fun c hc => hgroup c (List.mem_reverse.mp hc)
  unfold List.rtakeWhile
  rw [List.reverse_append, List.takeWhile_append, htake]
  split_ifs with hall
  · simp only [List.length_reverse, List.length_append, hall, Nat.add_mod_right]
  · rfl

theorem endingQuotes_append_cons (hc : c ≠ '"') (front cs : List Char) :
    endingQuotes (front ++ c :: cs) = endingQuotes cs :=
  congrArg List.length (rtakeWhile_append_cons (by simpa using hc) front cs)

/-- Three quotes before a text do not change the number of those at the end that make up no
triple. -/
theorem endingQuotes_quotes_append (cs : List Char) :
    endingQuotes (quotes ++ cs) % 3 = endingQuotes cs % 3 :=
  length_rtakeWhile_append_mod (List.all_eq_true.mp (by decide)) cs

/-! ### Protected texts -/

theorem replaceFrom_singleton (old : Char) (new cs : List Char) :
    replaceFrom [old] new 0 cs = cs.flatMap fun c => if c = old then new else [c] := by
  induction cs with
  | nil => rfl
  | cons c rest ih =>
    rw [List.flatMap_cons, ← ih]
    by_cases hc : c = old
    · rw [if_pos hc, hc]
      exact replaceFrom_of_matched (List.cons_ne_nil _ _) rest
    · rw [if_neg hc, replaceFrom_of_unmatched (by simpa using Ne.symm hc)]
      rfl

theorem toList_docstringText (s : String) : (docstringText s).toList = guarded s.toList := by
  unfold docstringText replace guarded
  simp only [String.toList_ofList]
  exact congrArg (replaceFrom quotes protectedQuotes 0)
    (replaceFrom_singleton '\\' ['\\', '\\'] s.toList)

theorem guarded_replicate (hn : n < 3) : guarded (List.replicate n '"') = List.replicate n '"' := by
  interval_cases n <;> decide

theorem guarded_quotes_append (cs : List Char) :
    guarded (quotes ++ cs) = protectedQuotes ++ guarded cs := by
  have hquotes : quotes.flatMap doubled = quotes := by decide
  unfold guarded
  rw [List.flatMap_append, hquotes, replaceFrom_of_matched (by decide)]

theorem replaceFrom_quotes (hn : n < 3) (hc : c ≠ '"') (new cs : List Char) :
    replaceFrom quotes new 0 (List.replicate n '"' ++ c :: cs)
      = List.replicate n '"' ++ c :: replaceFrom quotes new 0 cs := by
  unfold quotes
  have hne : '"' ≠ c := hc.symm
  interval_cases n <;> simp [replaceFrom, List.replicate_succ, hne]

theorem guarded_append_cons (hn : n < 3) (hc : c ≠ '"') (cs : List Char) :
    guarded (List.replicate n '"' ++ c :: cs)
      = (List.replicate n '"' ++ doubled c) ++ guarded cs := by
  have hkept : (List.replicate n '"').flatMap doubled = List.replicate n '"' := by
    interval_cases n <;> decide
  unfold guarded
  rw [List.flatMap_append, List.flatMap_cons, hkept]
  by_cases hbackslash : c = '\\'
  · -- Both backslashes are passed over, one after the other.
    have hnext := replaceFrom_quotes (n := 0) (by decide) hc protectedQuotes (cs.flatMap doubled)
    have htwo : doubled c = [c, c] := by
      rw [hbackslash]
      rfl
    rw [htwo, List.cons_append, replaceFrom_quotes hn hc]
    simpa using hnext
  · have hone : doubled c = [c] := if_neg hbackslash
    rw [hone, List.singleton_append, replaceFrom_quotes hn hc, List.append_assoc]
    rfl

/-! ### Reading protected texts -/

/-- Do the characters stay inside of a literal, whatever follows them? -/
def IsInner (cs : List Char) : Prop :=
  ∀ rest, read? (cs ++ rest) = (read? rest).map fun found => (cs ++ found.1, found.2)

theorem isInner_nil : IsInner [] := fun rest => by simp

theorem IsInner.append (h : IsInner cs) (h' : IsInner ds) : IsInner (cs ++ ds) := by
  intro rest
  rw [List.append_assoc, h, h', Option.map_map]
  simp [Function.comp_def]

theorem isInner_protectedQuotes : IsInner protectedQuotes := by
  intro rest
  simp [protectedQuotes, read?, Function.comp_def]

/-- At most two quotes do not close a literal if another character follows them. -/
theorem isInner_doubled (hn : n < 3) (hc : c ≠ '"') :
    IsInner (List.replicate n '"' ++ doubled c) := by
  intro rest
  unfold doubled
  split_ifs with hbackslash
  · interval_cases n <;> simp [read?, List.replicate_succ, Function.comp_def]
  · interval_cases n <;> simp [read?, List.replicate_succ, hc, hbackslash, Function.comp_def]

/-- A protected text stays inside of a literal, but for the quotes at its end that make up no
triple. -/
theorem exists_isInner_guarded (cs : List Char) :
    ∃ inner, guarded cs = inner ++ List.replicate (endingQuotes cs % 3) '"' ∧ IsInner inner := by
  induction taken cs with
  | few hn =>
    refine ⟨[], ?_, isInner_nil⟩
    rw [guarded_replicate hn, endingQuotes_replicate, Nat.mod_eq_of_lt hn, List.nil_append]
  | @quotes cs _ ih =>
    obtain ⟨inner, hguarded, hinner⟩ := ih
    refine ⟨protectedQuotes ++ inner, ?_, isInner_protectedQuotes.append hinner⟩
    rw [guarded_quotes_append, endingQuotes_quotes_append, hguarded, List.append_assoc]
  | @char n c cs hn hc _ ih =>
    obtain ⟨inner, hguarded, hinner⟩ := ih
    refine ⟨(List.replicate n '"' ++ doubled c) ++ inner, ?_,
      (isInner_doubled hn hc).append hinner⟩
    rw [guarded_append_cons hn hc, endingQuotes_append_cons hc, hguarded]
    exact (List.append_assoc ..).symm

/-- A protected text between triple quotes is read up to the quotes at its end that make up no
triple: three quotes begin with them. -/
theorem read?_guarded (cs rest : List Char) :
    ∃ inner, guarded cs = inner ++ List.replicate (endingQuotes cs % 3) '"' ∧
      read? (guarded cs ++ (quotes ++ rest))
        = some (inner, List.replicate (endingQuotes cs % 3) '"' ++ rest) := by
  obtain ⟨inner, hguarded, hinner⟩ := exists_isInner_guarded cs
  refine ⟨inner, hguarded, ?_⟩
  have hquotes : quotes = List.replicate 3 '"' := rfl
  have hturned : List.replicate (endingQuotes cs % 3) '"' ++ (quotes ++ rest)
      = quotes ++ (List.replicate (endingQuotes cs % 3) '"' ++ rest) := by
    rw [hquotes, ← List.append_assoc, List.replicate_append_replicate, Nat.add_comm,
      ← List.replicate_append_replicate, List.append_assoc]
  rw [hguarded, List.append_assoc, hturned, hinner]
  simp [quotes, read?]

end ApiTools.Text.TripleQuoted
