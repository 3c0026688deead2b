import ApiTools.Proofs.JsonPath.Reading

/-!
# Reading a displayed path

A path is displayed with its keys in single quotes, and nothing in them is escaped.  A segment whose
keys have no quotes and no backslashes is written as it is displayed (`item_display`).  No other is,
and the text after it does not help: a quote ends the key too early, and a run of backslashes would
have to be twice as long to be read as itself (`Quoted.backslashes`), so the key that is read is not
the one that was displayed (`Quoted.eq_of_plain`).  What is read for a segment then ends where its
display ends (`Items.plain_of_display`), and `read_display` follows by induction along the segments.
-/

namespace ApiTools

open JsonPath

/-! ### Backslashes in a quoted key -/

namespace JsonPath.Quoted

variable {quote c : Char} {written key tail rest : List Char}

theorem eq_nil (h : Quoted quote written []) : written = [] := by
  cases h
  rfl

/-- What needs a backslash before it is written with one. -/
theorem escaped_of_cons (hc : c = '\\' ∨ c = quote) (h : Quoted quote written (c :: key)) :
    ∃ more, written = '\\' :: c :: more ∧ Quoted quote more key := by
  cases h with
  | plain hbackslash hquote => exact absurd hc (not_or.mpr ⟨hbackslash, hquote⟩)
  | escaped h => exact ⟨_, rfl, h⟩

/-- Backslashes in a key are written twice. -/
theorem backslashes (n : Nat) (h : Quoted quote written (List.replicate n '\\' ++ key)) :
    ∃ more, written = List.replicate n '\\' ++ (List.replicate n '\\' ++ more) ∧
      Quoted quote more key := by
  induction n generalizing written with
  | zero => exact ⟨written, rfl, h⟩
  | succ n ih =>
    rw [List.replicate_succ, List.cons_append] at h
    obtain ⟨between, rfl, hbetween⟩ := escaped_of_cons (.inl rfl) h
    obtain ⟨more, rfl, hmore⟩ := ih hbetween
    refine ⟨more, ?_, hmore⟩
    have hmove : List.replicate n '\\' ++ '\\' :: (List.replicate n '\\' ++ more)
        = '\\' :: (List.replicate n '\\' ++ (List.replicate n '\\' ++ more)) := by
      rw [List.append_cons, ← List.replicate_succ', List.replicate_succ, List.cons_append]
    rw [List.replicate_succ, List.cons_append, List.cons_append, hmove]

/-- The backslashes at the beginning of characters, and what follows them. -/
theorem exists_backslashes (cs : List Char) :
    ∃ n after, cs = List.replicate n '\\' ++ after ∧ ∀ c ∈ after.head?, c ≠ '\\' := by
  induction cs with
  | nil => exact ⟨0, [], rfl, by simp⟩
  | cons c rest ih =>
    by_cases hc : c = '\\'
    · obtain ⟨n, after, hrest, hhead⟩ := ih
      exact ⟨n + 1, after, by rw [hc, hrest, List.replicate_succ, List.cons_append], hhead⟩
    · exact ⟨0, c :: rest, rfl, by simpa using hc⟩

/-- A key that is quoted as it stands has neither a quote nor a backslash, and the quote after it
ends it. -/
theorem eq_of_plain (hquote : IsQuote quote) (h : Quoted quote written key)
    (htext : written ++ quote :: tail = key ++ quote :: rest) :
    quote ∉ key ∧ '\\' ∉ key ∧ tail = rest := by
  induction key generalizing written with
  | nil =>
    rw [h.eq_nil] at htext
    exact ⟨List.not_mem_nil, List.not_mem_nil, by simpa using htext⟩
  | cons c key ih =>
    cases hcase : h with
    | @plain _ more _ hbackslash hne hmore =>
      obtain ⟨hq, hb, rfl⟩ := ih hmore (by simpa using htext)
      exact ⟨List.not_mem_cons_of_ne_of_not_mem (Ne.symm hne) hq,
        List.not_mem_cons_of_ne_of_not_mem (Ne.symm hbackslash) hb, rfl⟩
    | @escaped _ more _ hmore =>
      -- The backslash before the character is the character itself, the first of a run of them.
      obtain rfl : c = '\\' := by
        rw [List.cons_append, List.cons_append] at htext
        exact (List.cons.inj htext).1.symm
      obtain ⟨n, after, hafter, hhead⟩ := exists_backslashes ('\\' :: key)
      rw [hafter] at h htext
      obtain ⟨others, hothers, -⟩ := backslashes n h
      rw [hothers, List.append_assoc, List.append_assoc, List.append_assoc] at htext
      have hrun := List.append_cancel_left htext
      cases n with
      | zero =>
        rw [List.replicate_zero, List.nil_append] at hafter
        exact absurd rfl (hhead '\\' (by rw [← hafter]; rfl))
      | succ n =>
        rw [List.replicate_succ, List.cons_append] at hrun
        cases after with
        | nil => exact absurd (List.cons.inj hrun).1.symm hquote.ne_backslash
        | cons d after => exact absurd (List.cons.inj hrun).1.symm (hhead d rfl)

/-- A key without quotes and backslashes is quoted as it stands. -/
theorem of_plain (hquote : quote ∉ key) (hbackslash : '\\' ∉ key) : Quoted quote key key := by
  induction key with
  | nil => exact .nil
  | cons c key ih =>
    rw [List.mem_cons, not_or] at hquote hbackslash
    exact .plain (Ne.symm hbackslash.1) (Ne.symm hquote.1) (ih hquote.2 hbackslash.2)

end JsonPath.Quoted

/-! ### Displayed keys -/

namespace Segment

/-- The keys that a segment names. -/
def keyNames : Segment → List String
  | key name => [name]
  | keys names => names
  | index _ => []
  | wildcard => []

/-- Does each key of the segment go without quotes and backslashes? -/
def IsPlain (segment : Segment) : Prop :=
  ∀ name ∈ segment.keyNames, '\'' ∉ name.toList ∧ '\\' ∉ name.toList

/-- Keys in single quotes with commas between them, and the closing bracket. -/
def quotedKeys : List String → List Char
  | [] => [']']
  | [name] => '\'' :: (name.toList ++ ['\'', ']'])
  | name :: next :: rest => '\'' :: (name.toList ++ '\'' :: ',' :: quotedKeys (next :: rest))

theorem keyNames_keysSegment (names : List String) :
    (JsonPath.keysSegment names).keyNames = names := by
  unfold JsonPath.keysSegment
  split <;> rfl

theorem toList_display_key (name : String) :
    (key name).display.toList = '[' :: quotedKeys [name] := by
  simp [display, quotedKeys, String.toList_append]

theorem toList_display_keys (names : List String) :
    (keys names).display.toList = '[' :: quotedKeys names := by
  have hkeys : String.toList (String.intercalate "," (names.map fun name => "'" ++ name ++ "'"))
      ++ [']'] = quotedKeys names := by
    rw [String.toList_intercalate]
    induction names with
    | nil => rfl
    | cons name rest ih =>
      cases rest with
      | nil => simp [quotedKeys, String.toList_append]
      | cons next rest =>
        rw [quotedKeys, ← ih]
        simp [List.intercalate_cons_cons, String.toList_append]
  rw [← hkeys]
  simp [display, String.toList_append]

theorem toList_display_keysSegment (names : List String) :
    (JsonPath.keysSegment names).display.toList = '[' :: quotedKeys names := by
  unfold JsonPath.keysSegment
  split
  · exact toList_display_key _
  · exact toList_display_keys _

theorem toList_display_index (position : Nat) :
    (index position).display.toList = '[' :: ((natText position).toList ++ [']']) := by
  simp [display, String.toList_append]

end Segment

namespace JsonPath

open Segment

variable {written more rest cs digits : List Char} {names : List String} {segment : Segment}
  {segments : List Segment}

/-- Keys without quotes and backslashes are a list of keys as they are displayed. -/
theorem keyList_quotedKeys (hne : names ≠ [])
    (h : ∀ name ∈ names, '\'' ∉ name.toList ∧ '\\' ∉ name.toList) :
    KeyList (quotedKeys names) names := by
  induction names with
  | nil => exact absurd rfl hne
  | cons name others ih =>
    rw [List.forall_mem_cons] at h
    have hname := Quoted.of_plain h.1.1 h.1.2
    have htext : String.ofList name.toList = name := String.ofList_toList
    cases others with
    | nil =>
      have hlist := KeyList.last (.inl rfl) hname 0
      rwa [htext] at hlist
    | cons next others =>
      have hlist := KeyList.more (.inl rfl) hname 0 0 (ih (by simp) h.2)
      rwa [htext] at hlist

theorem KeyList.ne_nil (h : KeyList written names) : names ≠ [] := by
  cases h <;> simp

/-- No spaces stand before what begins with another character. -/
theorem eq_of_spaces {n : Nat} {c : Char} (hc : c ≠ ' ')
    (h : List.replicate n ' ' ++ cs = c :: rest) : cs = c :: rest := by
  cases n with
  | zero => exact h
  | succ n => exact absurd (List.cons.inj h).1.symm hc

/-- Displayed keys that are read back have no quotes and no backslashes, and what is read with them
ends where they end. -/
theorem KeyList.plain_of_quotedKeys (h : KeyList written names)
    (htext : written ++ more = quotedKeys names ++ rest) :
    (∀ name ∈ names, '\'' ∉ name.toList ∧ '\\' ∉ name.toList) ∧ more = rest := by
  induction h with
  | @last quote inner key hquote hinner spaces =>
    simp only [quotedKeys, String.toList_ofList, List.cons_append, List.append_assoc,
      List.nil_append, List.cons.injEq] at htext
    obtain ⟨rfl, htext⟩ := htext
    obtain ⟨hkey, hbackslash, hafter⟩ := hinner.eq_of_plain hquote htext
    refine ⟨?_, ?_⟩
    · simp [hkey, hbackslash]
    · exact (List.cons.inj (eq_of_spaces (by decide) hafter)).2
  | @more quote inner key others names hquote hinner before after hothers ih =>
    -- Another key follows, so the displayed keys go on after a comma, and the next one begins with
    -- a quote.
    obtain ⟨next, names, rfl⟩ := List.exists_cons_of_ne_nil hothers.ne_nil
    obtain ⟨tail, hnext⟩ : ∃ tail, quotedKeys (next :: names) = '\'' :: tail := by
      cases names <;> exact ⟨_, rfl⟩
    simp only [quotedKeys, String.toList_ofList, List.cons_append, List.append_assoc,
      List.cons.injEq] at htext
    obtain ⟨rfl, htext⟩ := htext
    obtain ⟨hkey, hbackslash, hafter⟩ := hinner.eq_of_plain hquote htext
    have hcomma := (List.cons.inj (eq_of_spaces (by decide) hafter)).2
    rw [hnext, List.cons_append] at hcomma
    obtain ⟨hrest, hmore⟩ := ih (by
      rw [hnext, List.cons_append]
      exact eq_of_spaces (by decide) hcomma)
    refine ⟨?_, hmore⟩
    rw [List.forall_mem_cons]
    exact ⟨by simp [hkey, hbackslash], hrest⟩

/-! ### Displayed segments -/

/-- A segment that begins with a point is named. -/
theorem Items.of_point (h : Items ('.' :: cs) (segment :: segments)) :
    ∃ name rest, cs = name ++ rest ∧ segment = namedSegment name ∧ Items rest segments := by
  generalize htext : '.' :: cs = text at h
  cases h with
  | @cons written rest _ _ hitem hrest =>
    cases hitem with
    | name =>
      obtain ⟨-, rfl⟩ := List.cons.inj htext
      exact ⟨_, rest, rfl, rfl, hrest⟩
    | wildcard => cases htext
    | index => cases htext
    | keys => cases htext

/-- A segment that begins with a bracket is a wildcard, a position or a list of keys. -/
theorem Items.of_bracket (h : Items ('[' :: cs) (segment :: segments)) :
    ∃ written rest, cs = written ++ rest ∧ Item ('[' :: written) segment ∧ Items rest segments := by
  generalize htext : '[' :: cs = text at h
  cases h with
  | @cons written rest _ _ hitem hrest =>
    obtain ⟨c, after, rfl⟩ := List.exists_cons_of_ne_nil hitem.ne_nil
    obtain ⟨rfl, rfl⟩ := List.cons.inj htext
    exact ⟨after, rest, rfl, hitem, hrest⟩

theorem namedSegment_eq_wildcard {name : List Char} (h : namedSegment name = .wildcard) :
    name = ['*'] := by
  unfold namedSegment at h
  split_ifs at h with hname
  exact hname

theorem Item.digits_of_index {position : Nat} (h : Item ('[' :: written) (.index position)) :
    ∃ digits, written = digits ++ [']'] ∧ positionOfDigits? digits = some position := by
  generalize hsegment : Segment.index position = segment at h
  cases h with
  | index hdigits =>
    cases hsegment
    exact ⟨_, rfl, hdigits⟩
  | wildcard => cases hsegment
  | keys =>
    unfold keysSegment at hsegment
    split at hsegment <;> cases hsegment

theorem Item.keyList (h : Item ('[' :: written) segment) (hwildcard : segment ≠ .wildcard)
    (hindex : ∀ position, segment ≠ .index position) : KeyList written segment.keyNames := by
  cases h with
  | wildcard => exact absurd rfl hwildcard
  | index => exact absurd rfl (hindex _)
  | keys hlist => rwa [keyNames_keysSegment]

theorem le_maxPosition {position : Nat} (h : positionOfDigits? digits = some position) :
    position ≤ maxPosition := by
  unfold positionOfDigits? at h
  rw [Option.ite_none_right_eq_some, Bool.and_eq_true, decide_eq_true_eq] at h
  rw [← Option.some.inj h.2]
  exact h.1.2

theorem item_wildcard : Item Segment.wildcard.display.toList .wildcard := by
  have hstar : ['*'].all isNameChar = true := by decide
  exact .name (List.cons_ne_nil _ _) (List.all_eq_true.mp hstar)

/-- A segment that was read and has no quotes and no backslashes is written as it is displayed. -/
theorem item_display (h : Item written segment) (hplain : segment.IsPlain) :
    Item segment.display.toList segment := by
  cases h with
  | name =>
    unfold namedSegment at hplain ⊢
    split_ifs at hplain ⊢ with hstar
    · exact item_wildcard
    · rw [toList_display_key]
      exact .keys (keyList_quotedKeys (List.cons_ne_nil _ _) hplain)
  | wildcard => exact item_wildcard
  | @index _ position hdigits =>
    rw [toList_display_index]
    exact item_index (le_maxPosition hdigits)
  | @keys _ names hlist =>
    unfold IsPlain at hplain
    rw [keyNames_keysSegment] at hplain
    rw [toList_display_keysSegment]
    exact .keys (keyList_quotedKeys hlist.ne_nil hplain)

/-- Displayed keys that are read back as a segment. -/
theorem Items.plain_of_quotedKeys
    (h : Items ('[' :: (quotedKeys segment.keyNames ++ rest)) (segment :: segments))
    (hwildcard : segment ≠ .wildcard) (hindex : ∀ position, segment ≠ .index position) :
    segment.IsPlain ∧ Items rest segments := by
  obtain ⟨written, more, htext, hitem, hmore⟩ := h.of_bracket
  obtain ⟨hplain, rfl⟩ := (hitem.keyList hwildcard hindex).plain_of_quotedKeys htext.symm
  exact ⟨hplain, hmore⟩

/-- A displayed segment that is read back has no quotes and no backslashes, and what is read as this
segment ends where it ends. -/
theorem Items.plain_of_display (h : Items (segment.display.toList ++ rest) (segment :: segments)) :
    segment.IsPlain ∧ Items rest segments := by
  cases segment with
  | key name =>
    rw [toList_display_key, List.cons_append] at h
    exact h.plain_of_quotedKeys (by simp) (by simp)
  | keys names =>
    rw [toList_display_keys, List.cons_append] at h
    exact h.plain_of_quotedKeys (by simp) (by simp)
  | index position =>
    refine ⟨by simp [IsPlain, keyNames], ?_⟩
    rw [toList_display_index, List.cons_append] at h
    obtain ⟨written, more, htext, hitem, hmore⟩ := h.of_bracket
    obtain ⟨digits, rfl, hdigits⟩ := hitem.digits_of_index
    have hposition := positionOfDigits?_natText (le_maxPosition hdigits)
    -- The bracket is no digit, so the digits end at the first one on both sides.
    have hrest := congrArg (List.dropWhile isDigitChar) htext
    have hclose : ¬ isDigitChar ']' = true := by decide
    simp only [List.append_assoc, List.singleton_append] at hrest
    rw [List.dropWhile_append_of_pos (isDigitChar_of_positionOfDigits? hposition).2,
      List.dropWhile_append_of_pos (isDigitChar_of_positionOfDigits? hdigits).2,
      List.dropWhile_cons_of_neg hclose, List.dropWhile_cons_of_neg hclose] at hrest
    rwa [(List.cons.inj hrest).2]
  | wildcard =>
    refine ⟨by simp [IsPlain, keyNames], ?_⟩
    have hpoint : Items ('.' :: '*' :: rest) (.wildcard :: segments) := h
    obtain ⟨name, more, htext, hname, hmore⟩ := hpoint.of_point
    obtain rfl := namedSegment_eq_wildcard hname.symm
    obtain ⟨-, rfl⟩ := List.cons.inj htext
    exact hmore

/-! ### The whole path -/

/-- Segments that were read and have no quotes and no backslashes are written as they are
displayed. -/
theorem items_display (h : Items written segments)
    (hplain : ∀ segment ∈ segments, segment.IsPlain) :
    Items (segments.flatMap fun segment => segment.display.toList) segments := by
  induction h with
  | nil => exact .nil
  | cons hitem _ ih =>
    rw [List.forall_mem_cons] at hplain
    rw [List.flatMap_cons]
    exact .cons (item_display hitem hplain.1) (ih hplain.2)

/-- Displayed segments that are read back have no quotes and no backslashes. -/
theorem Items.plain_of_displays
    (h : Items (segments.flatMap fun segment => segment.display.toList) segments) :
    ∀ segment ∈ segments, segment.IsPlain := by
  induction segments with
  | nil => simp
  | cons segment segments ih =>
    rw [List.flatMap_cons] at h
    obtain ⟨hplain, hrest⟩ := h.plain_of_display
    rw [List.forall_mem_cons]
    exact ⟨hplain, ih hrest⟩

theorem toList_display (path : JsonPath) :
    path.display.toList = '$' :: path.segments.flatMap fun segment => segment.display.toList := by
  simp [display, String.toList_append, String.toList_join, List.flatMap_map]

theorem exists_quotedKeys (names : List String) : ∃ front, quotedKeys names = front ++ [']'] := by
  induction names with
  | nil => exact ⟨[], rfl⟩
  | cons name rest ih =>
    cases rest with
    | nil => exact ⟨'\'' :: (name.toList ++ ['\'']), by simp [quotedKeys]⟩
    | cons next rest =>
      obtain ⟨front, hfront⟩ := ih
      exact ⟨'\'' :: (name.toList ++ '\'' :: ',' :: front), by simp [quotedKeys, hfront]⟩

/-- A displayed segment ends in a bracket or a star. -/
theorem exists_display (segment : Segment) :
    ∃ front c, segment.display.toList = front ++ [c] ∧ Text.isBlank c = false := by
  cases segment with
  | key name =>
    obtain ⟨front, hfront⟩ := exists_quotedKeys [name]
    exact ⟨'[' :: front, ']', by rw [toList_display_key, hfront, List.cons_append], by decide⟩
  | keys names =>
    obtain ⟨front, hfront⟩ := exists_quotedKeys names
    exact ⟨'[' :: front, ']', by rw [toList_display_keys, hfront, List.cons_append], by decide⟩
  | index position =>
    exact ⟨'[' :: (natText position).toList, ']', toList_display_index position, by decide⟩
  | wildcard => exact ⟨['.'], '*', rfl, by decide⟩

/-- A displayed path has no blanks around it. -/
theorem trimChars_display (path : JsonPath) :
    Text.trimChars path.display.toList = path.display.toList := by
  rw [toList_display]
  apply trimChars_eq_self
  · simpa using (by decide : Text.isBlank '$' = false)
  · rcases List.eq_nil_or_concat' path.segments with hnil | ⟨segments, last, hlast⟩
    · rw [hnil]
      simpa using (by decide : Text.isBlank '$' = false)
    · obtain ⟨front, c, hfront, hc⟩ := exists_display last
      rw [hlast, List.flatMap_append, List.flatMap_singleton, hfront, ← List.append_assoc,
        ← List.cons_append, List.getLast?_concat]
      simpa using hc

/-- A path that was read is read back from what is displayed for it, where no key in it has a quote
or a backslash, and only there. -/
theorem read_display {text : String} {path : JsonPath} (h : read text = .ok path) :
    read path.display = .ok path ↔
      ∀ segment ∈ path.segments, ∀ name ∈ segment.keyNames,
        '\'' ∉ name.toList ∧ '\\' ∉ name.toList := by
  obtain ⟨written, -, hitems⟩ := read_eq_ok_iff.mp h
  rw [show path = ⟨path.segments⟩ from rfl, read_eq_ok_iff]
  constructor
  · rintro ⟨shown, hshown, hback⟩
    rw [trimChars_display, toList_display] at hshown
    rw [← (List.cons.inj hshown).2] at hback
    exact hback.plain_of_displays
  · intro hplain
    refine ⟨_, ?_, items_display hitems hplain⟩
    rw [trimChars_display, toList_display]

/-- Two paths that are read: the first is displayed as `$['paths']['a','b'][7].*` and read back, the
second has a quote in a key and is not. -/
theorem read_display_quote :
    (read "$.paths['a' , \"b\"][07][*]"
        = .ok ⟨[.key "paths", .keys ["a", "b"], .index 7, .wildcard]⟩ ∧
      read (display ⟨[.key "paths", .keys ["a", "b"], .index 7, .wildcard]⟩)
        = .ok ⟨[.key "paths", .keys ["a", "b"], .index 7, .wildcard]⟩) ∧
    (read "$.paths['it\\'s']" = .ok ⟨[.key "paths", .key "it's"]⟩ ∧
      read (display ⟨[.key "paths", .key "it's"]⟩) ≠ .ok ⟨[.key "paths", .key "it's"]⟩) := by
  have hclean : read "$.paths['a' , \"b\"][07][*]"
      = .ok ⟨[.key "paths", .keys ["a", "b"], .index 7, .wildcard]⟩ := by rfl
  have hquote : read "$.paths['it\\'s']" = .ok ⟨[.key "paths", .key "it's"]⟩ := by rfl
  refine ⟨⟨hclean, (read_display hclean).mpr (by decide)⟩, hquote, ?_⟩
  intro hback
  exact absurd ((read_display hquote).mp hback) (by decide)

end JsonPath

end ApiTools
