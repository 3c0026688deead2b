import ApiTools.Overlay
import ApiTools.Proofs.JsonPath.Grammar

/-!
# What the reader of paths takes

`Grammar` shows that the reader takes whatever the grammar allows.  Here is the converse, reader by
reader: what is taken off the front of the text is what the grammar allows there, for the segment
that was read.  So a reader never gives back more than it was given, and the bounds on the number of
keys and of segments, which no text reaches, have no part in the answer (`readKeys_eq_of_length_le`,
`readSegments_eq_of_length_le`).  `readTarget_grammar` puts both directions together.
-/

namespace ApiTools.JsonPath

/-! ### Keys -/

theorem quoted_of_readKey {quote : Char} {done cs key rest : List Char}
    (h : readKey quote done cs = .ok (key, rest)) :
    ∃ written name, cs = written ++ quote :: rest ∧ Quoted quote written name ∧
      key = done.reverse ++ name := by
  fun_induction readKey quote done cs with
  | case1 => cases h
  | case2 => cases h
  | case3 done c tail ih =>
    obtain ⟨written, name, rfl, hquoted, rfl⟩ := ih h
    exact ⟨'\\' :: c :: written, c :: name, rfl, .escaped hquoted, by simp⟩
  | case4 done tail =>
    obtain ⟨rfl, rfl⟩ := Prod.mk.inj (Except.ok.inj h)
    exact ⟨[], [], rfl, .nil, by simp⟩
  | case5 done c tail hlast hescape hquote ih =>
    obtain ⟨written, name, rfl, hquoted, rfl⟩ := ih h
    -- A backslash is read together with the next character, or refused where there is none.
    have hbackslash : c ≠ '\\' := by
      intro hc
      cases hwritten : written ++ quote :: rest with
      | nil => exact hlast hc hwritten
      | cons d tail => exact hescape d tail hc hwritten
    exact ⟨c :: written, c :: name, rfl, .plain hbackslash hquote hquoted, by simp⟩

/-- The spaces that are skipped, and what is left. -/
theorem exists_skipSpaces (cs : List Char) :
    ∃ spaces, cs = List.replicate spaces ' ' ++ skipSpaces cs := by
  induction cs with
  | nil => exact ⟨0, rfl⟩
  | cons c rest ih =>
    by_cases hc : c = ' '
    · obtain ⟨spaces, hrest⟩ := ih
      refine ⟨spaces + 1, ?_⟩
      rw [hc, List.replicate_succ, List.cons_append]
      exact congrArg (' ' :: ·) hrest
    · refine ⟨0, ?_⟩
      unfold skipSpaces
      rw [List.dropWhile_cons_of_neg (by simpa using hc)]
      rfl

/-- Reading keys begins with one key between two quotes. -/
theorem readKeys_succ_eq_ok {fuel : Nat} {cs : List Char} {names : List String} {rest : List Char}
    (h : readKeys (fuel + 1) cs = .ok (names, rest)) :
    ∃ quote written key tail, IsQuote quote ∧ Quoted quote written key ∧
      cs = quote :: (written ++ quote :: tail) ∧
      ((skipSpaces tail = ']' :: rest ∧ names = [String.ofList key]) ∨
        ∃ tail' names', skipSpaces tail = ',' :: tail' ∧ names = String.ofList key :: names' ∧
          readKeys fuel (skipSpaces tail') = .ok (names', rest)) := by
  unfold readKeys at h
  split at h
  · cases h
  · rename_i quote cs
    split at h
    · rename_i hquote
      split at h
      · cases h
      · rename_i key tail hread
        obtain ⟨written, name, rfl, hquoted, rfl⟩ := quoted_of_readKey hread
        refine ⟨quote, written, _, tail, by simpa [IsQuote] using hquote, hquoted, rfl, ?_⟩
        split at h
        · rename_i tail' hcomma
          split at h
          · cases h
          · rename_i names' rest' hrest
            obtain ⟨rfl, rfl⟩ := Prod.mk.inj (Except.ok.inj h)
            exact .inr ⟨tail', names', hcomma, rfl, hrest⟩
        · rename_i rest' hclose
          obtain ⟨rfl, rfl⟩ := Prod.mk.inj (Except.ok.inj h)
          exact .inl ⟨hclose, rfl⟩
        · cases h
    · cases h

theorem keyList_of_readKeys {fuel : Nat} {cs : List Char} {names : List String} {rest : List Char}
    (h : readKeys fuel cs = .ok (names, rest)) :
    ∃ written, cs = written ++ rest ∧ KeyList written names := by
  induction fuel generalizing cs names with
  | zero => cases h
  | succ fuel ih =>
    obtain ⟨quote, written, key, tail, hquote, hquoted, rfl, hnext⟩ := readKeys_succ_eq_ok h
    obtain ⟨before, hbefore⟩ := exists_skipSpaces tail
    rcases hnext with ⟨hclose, rfl⟩ | ⟨tail', names', hcomma, rfl, hmore⟩
    · refine ⟨_, ?_, .last hquote hquoted before⟩
      rw [hbefore, hclose]
      simp
    · obtain ⟨after, hafter⟩ := exists_skipSpaces tail'
      obtain ⟨others, hothers, hlist⟩ := ih hmore
      refine ⟨_, ?_, .more hquote hquoted before after hlist⟩
      rw [hbefore, hcomma, hafter, hothers]
      simp

theorem length_skipSpaces_le (cs : List Char) : (skipSpaces cs).length ≤ cs.length :=
  (List.dropWhile_sublist _).length_le

/-- A bound that is no less than the number of characters has no part in what is read. -/
theorem readKeys_eq_of_length_le {fuel fuel' : Nat} {cs : List Char} (h : cs.length ≤ fuel)
    (h' : cs.length ≤ fuel') : readKeys fuel cs = readKeys fuel' cs := by
  induction fuel generalizing fuel' cs with
  | zero =>
    rw [List.length_eq_zero_iff.mp (Nat.le_zero.mp h)]
    cases fuel' <;> rfl
  | succ fuel ih =>
    cases cs with
    | nil => cases fuel' <;> rfl
    | cons quote rest =>
      rw [List.length_cons] at h h'
      obtain ⟨fuel', rfl⟩ : ∃ n, fuel' = n + 1 := ⟨fuel' - 1, by omega⟩
      simp only [readKeys]
      cases hread : readKey quote [] rest with
      | error => rfl
      | ok found =>
        obtain ⟨key, tail⟩ := found
        -- What follows the key is shorter, and so is what follows the comma after it.
        obtain ⟨written, name, rfl, -, -⟩ := quoted_of_readKey hread
        rw [List.length_append, List.length_cons] at h h'
        have hmore : ∀ others, skipSpaces tail = ',' :: others →
            readKeys fuel (skipSpaces others) = readKeys fuel' (skipSpaces others) := by
          intro others hcomma
          have hspaces := length_skipSpaces_le tail
          have hothers := length_skipSpaces_le others
          rw [hcomma, List.length_cons] at hspaces
          exact ih (by omega) (by omega)
        dsimp only
        split
        · split
          · rename_i others hcomma
            rw [hmore others hcomma]
          · rfl
          · rfl
        · rfl

/-! ### Segments -/

/-- What a result was made of. -/
theorem exists_of_map_eq_ok {α β : Type} {f : α → β} {result : Except PathError α} {b : β}
    (h : result.map f = .ok b) : ∃ a, result = .ok a ∧ f a = b := by
  cases result with
  | error => cases h
  | ok a => exact ⟨a, rfl, Except.ok.inj h⟩

theorem item_of_readIndex {cs : List Char} {segment : Segment} {rest : List Char}
    (h : readIndex cs = .ok (segment, rest)) :
    ∃ written, cs = written ++ rest ∧ Item ('[' :: written) segment := by
  unfold readIndex at h
  split at h
  · rename_i tail hclose
    split at h
    · rename_i position hposition
      obtain ⟨rfl, rfl⟩ := Prod.mk.inj (Except.ok.inj h)
      refine ⟨_, ?_, .index hposition⟩
      calc cs = cs.takeWhile isDigitChar ++ cs.dropWhile isDigitChar :=
            List.takeWhile_append_dropWhile.symm
        _ = cs.takeWhile isDigitChar ++ [']'] ++ tail := by simp [hclose]
    · cases h
  · cases h

theorem item_of_readBracket {cs : List Char} {segment : Segment} {rest : List Char}
    (h : readBracket cs = .ok (segment, rest)) :
    ∃ written, cs = written ++ rest ∧ Item ('[' :: written) segment := by
  unfold readBracket at h
  split at h
  · cases h
  · split at h
    · obtain ⟨rfl, rfl⟩ := Prod.mk.inj (Except.ok.inj h)
      exact ⟨['*', ']'], rfl, .wildcard⟩
    · cases h
  · split at h
    · obtain ⟨⟨names, tail⟩, hread, hfound⟩ := exists_of_map_eq_ok h
      obtain ⟨rfl, rfl⟩ := Prod.mk.inj hfound
      obtain ⟨written, hwritten, hlist⟩ := keyList_of_readKeys hread
      exact ⟨written, hwritten, .keys hlist⟩
    · split at h
      · exact item_of_readIndex h
      · cases h

/-- A point begins a name of at least one character. -/
theorem readSegments_point_eq_ok {fuel : Nat} {cs : List Char} {segments : List Segment}
    (h : readSegments (fuel + 1) ('.' :: cs) = .ok segments) :
    cs.takeWhile isNameChar ≠ [] ∧ ∃ more,
      segments = namedSegment (cs.takeWhile isNameChar) :: more ∧
        readSegments fuel (cs.dropWhile isNameChar) = .ok more := by
  unfold readSegments at h
  rw [if_pos rfl] at h
  split at h
  · cases h
  · dsimp only at h
    split at h
    · cases h
    · rename_i hne
      obtain ⟨more, hmore, rfl⟩ := exists_of_map_eq_ok h
      exact ⟨by simpa using hne, more, rfl, hmore⟩

/-- What is read as segments is written as the grammar says. -/
theorem items_of_readSegments {fuel : Nat} {cs : List Char} {segments : List Segment}
    (h : readSegments fuel cs = .ok segments) : Items cs segments := by
  induction fuel generalizing cs segments with
  | zero =>
    cases cs with
    | nil =>
      cases h
      exact .nil
    | cons => cases h
  | succ fuel ih =>
    cases cs with
    | nil =>
      cases h
      exact .nil
    | cons c rest =>
      by_cases hpoint : c = '.'
      · subst hpoint
        obtain ⟨hne, more, rfl, hmore⟩ := readSegments_point_eq_ok h
        have hname := Item.name hne fun c hc => List.all_eq_true.mp List.all_takeWhile c hc
        have hitems := Items.cons hname (ih hmore)
        rwa [List.cons_append, List.takeWhile_append_dropWhile] at hitems
      · by_cases hbracket : c = '['
        · subst hbracket
          rw [readSegments_bracket] at h
          split at h
          · cases h
          · rename_i segment tail hread
            obtain ⟨more, hmore, rfl⟩ := exists_of_map_eq_ok h
            obtain ⟨written, rfl, hitem⟩ := item_of_readBracket hread
            exact .cons hitem (ih hmore)
        · unfold readSegments at h
          rw [if_neg hpoint, if_neg hbracket] at h
          cases h

/-- A bound that is no less than the number of characters has no part in what is read. -/
theorem readSegments_eq_of_length_le {fuel fuel' : Nat} {cs : List Char} (h : cs.length ≤ fuel)
    (h' : cs.length ≤ fuel') : readSegments fuel cs = readSegments fuel' cs := by
  induction fuel generalizing fuel' cs with
  | zero =>
    rw [List.length_eq_zero_iff.mp (Nat.le_zero.mp h)]
    cases fuel' <;> rfl
  | succ fuel ih =>
    cases cs with
    | nil => cases fuel' <;> rfl
    | cons c rest =>
      rw [List.length_cons] at h h'
      obtain ⟨fuel', rfl⟩ : ∃ n, fuel' = n + 1 := ⟨fuel' - 1, by omega⟩
      have hname : (rest.dropWhile isNameChar).length ≤ rest.length :=
        (List.dropWhile_sublist _).length_le
      simp only [readSegments]
      rw [@ih fuel' (rest.dropWhile isNameChar) (by omega) (by omega)]
      cases hread : readBracket rest with
      | error => rfl
      | ok found =>
        obtain ⟨segment, tail⟩ := found
        obtain ⟨written, rfl, -⟩ := item_of_readBracket hread
        rw [List.length_append] at h h'
        dsimp only
        rw [@ih fuel' tail (by omega) (by omega)]

/-! ### The whole text -/

/-- The text, without the blanks around it, is `$` and the characters of the segments. -/
def IsPath (text : String) (segments : List Segment) : Prop :=
  ∃ written, Text.trimChars text.toList = '$' :: written ∧ Items written segments

theorem read_eq_ok_iff {text : String} {segments : List Segment} :
    read text = .ok ⟨segments⟩ ↔ IsPath text segments := by
  constructor
  · intro h
    unfold read at h
    split at h
    · rename_i written htext
      obtain ⟨found, hfound, heq⟩ := exists_of_map_eq_ok h
      cases heq
      exact ⟨written, htext, items_of_readSegments hfound⟩
    · cases h
  · rintro ⟨written, htext, hitems⟩
    exact read_of_items htext hitems

/-- A target is read as the segments that the grammar gives it, and refused where the grammar gives
it none.  The bounds on what is read have no part in this: no greater ones would change the
answer. -/
theorem readTarget_grammar (text : String) :
    (∀ segments, readTarget text = .ok ⟨segments⟩ ↔ IsPath text segments) ∧
    ((∀ segments, ¬ IsPath text segments) →
      ∃ cause, readTarget text = .error (.badPath text cause)) ∧
    ∀ fuel cs, cs.length ≤ fuel →
      readSegments fuel cs = readSegments cs.length cs ∧
        readKeys fuel cs = readKeys cs.length cs := by
  refine ⟨?_, ?_, ?_⟩
  · intro segments
    rw [← read_eq_ok_iff]
    unfold readTarget
    cases read text <;> simp [Except.mapError]
  · intro hnone
    unfold readTarget
    cases hread : read text with
    | ok path => exact absurd (read_eq_ok_iff.mp hread) (hnone path.segments)
    | error cause => exact ⟨cause, rfl⟩
  · intro fuel cs hfuel
    exact ⟨readSegments_eq_of_length_le hfuel (Nat.le_refl _),
      readKeys_eq_of_length_le hfuel (Nat.le_refl _)⟩

/-- Names, wildcards, a list of keys and a position, with blanks around the whole. -/
example : readTarget " $.a.*['x' , \"y\\\"\" ][07]\n"
    = .ok ⟨[.key "a", .wildcard, .keys ["x", "y\""], .index 7]⟩ := by rfl

end ApiTools.JsonPath
