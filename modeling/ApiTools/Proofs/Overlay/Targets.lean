import ApiTools.Proofs.Number.Digits
import ApiTools.Proofs.Overlay.Places

/-!
# Different places have different targets

A target determines its place (`TextPlace.target_injective`), also where the path has backslashes
and the target cannot be read back.  The quotes show where the path ends: after the closing quote
there is none, so the last quote of the target is the closing one.  Every quote before it stands
after a backslash that was put there, so the path can be told from what is written for it
(`escaped_injective`).
-/

namespace ApiTools

/-! ### Escaped paths -/

/-- The characters with a backslash before each quote. -/
def escaped (cs : List Char) : List Char := Text.replaceFrom ['\''] ['\\', '\''] 0 cs

@[simp] theorem escaped_nil : escaped [] = [] := rfl

@[simp] theorem escaped_quote (rest : List Char) :
    escaped ('\'' :: rest) = '\\' :: '\'' :: escaped rest := by
  simp [escaped, Text.replaceFrom]

theorem escaped_cons {c : Char} (h : c ≠ '\'') (rest : List Char) :
    escaped (c :: rest) = c :: escaped rest := by
  simp [escaped, Text.replaceFrom, Ne.symm h]

/-- No quote stands at the beginning, for a backslash would stand before it. -/
theorem escaped_ne_quote_cons (cs tail : List Char) : escaped cs ≠ '\'' :: tail := by
  cases cs with
  | nil => simp
  | cons c rest =>
    by_cases hc : c = '\''
    · simp [hc]
    · rw [escaped_cons hc]
      exact fun h => hc (List.cons.inj h).1

theorem escaped_injective {cs ds : List Char} (h : escaped cs = escaped ds) : cs = ds := by
  induction cs generalizing ds with
  | nil =>
    cases ds with
    | nil => rfl
    | cons d rest =>
      by_cases hd : d = '\''
      · simp [hd] at h
      · simp [escaped_cons hd] at h
  | cons c rest ih =>
    cases ds with
    | nil =>
      by_cases hc : c = '\''
      · simp [hc] at h
      · simp [escaped_cons hc] at h
    | cons d others =>
      by_cases hc : c = '\'' <;> by_cases hd : d = '\''
      · subst hc hd
        rw [escaped_quote, escaped_quote] at h
        rw [ih (by simpa using h)]
      · -- A backslash of the other text is not the one that was put before a quote, for no quote
        -- follows it.
        subst hc
        rw [escaped_quote, escaped_cons hd] at h
        exact absurd (List.cons.inj h).2.symm (escaped_ne_quote_cons _ _)
      · subst hd
        rw [escaped_quote, escaped_cons hc] at h
        exact absurd (List.cons.inj h).2 (escaped_ne_quote_cons _ _)
      · rw [escaped_cons hc, escaped_cons hd] at h
        obtain ⟨rfl, hrest⟩ := List.cons.inj h
        rw [ih hrest]

/-- Where a character is the last of its kind on both sides, both sides are cut there alike. -/
theorem append_cons_inj_of_not_mem {α : Type} {a : α} {xs ys xs' ys' : List α} (hys : a ∉ ys)
    (hys' : a ∉ ys') (h : xs ++ a :: ys = xs' ++ a :: ys') : xs = xs' ∧ ys = ys' := by
  rcases List.append_eq_append_iff.mp h with ⟨cut, rfl, hcut⟩ | ⟨cut, rfl, hcut⟩
  · cases cut with
    | nil => simpa using hcut
    | cons b cut =>
      obtain ⟨rfl, rfl⟩ := List.cons.inj hcut
      exact absurd (by simp) hys
  · cases cut with
    | nil => simpa using hcut.symm
    | cons b cut =>
      obtain ⟨rfl, rfl⟩ := List.cons.inj hcut
      exact absurd (by simp) hys'

/-! ### What follows the path -/

theorem TextSlot.suffix_injective {slot slot' : TextSlot} (h : slot.suffix = slot'.suffix) :
    slot = slot' := by
  have hlist := congrArg String.toList h
  cases slot <;> cases slot' <;> simp [suffix, String.toList_append] at hlist ⊢
  exact natText_injective (String.toList_inj.mp hlist)

/-- After the method a point begins what names the text. -/
theorem takeWhile_method_suffix (method : Method) (slot : TextSlot) :
    (method.name.toList ++ slot.suffix.toList).takeWhile JsonPath.isNameChar
      = method.name.toList := by
  have hname : ∀ c ∈ method.name.toList, JsonPath.isNameChar c = true :=
    List.all_eq_true.mp (TextPlace.isName_method method).2.2
  have hpoint : ∃ rest, slot.suffix.toList = '.' :: rest := by
    cases slot with
    | description => exact ⟨_, rfl⟩
    | summary => exact ⟨_, rfl⟩
    | parameter position =>
      rw [TextSlot.suffix, String.toList_append, String.toList_append]
      exact ⟨_, rfl⟩
  obtain ⟨rest, hrest⟩ := hpoint
  rw [List.takeWhile_append_of_pos hname, hrest, List.takeWhile_cons_of_neg (by decide),
    List.append_nil]

/-- No quote stands in what follows the path. -/
theorem quote_not_mem_method_suffix (method : Method) (slot : TextSlot) :
    '\'' ∉ ']' :: '.' :: (method.name.toList ++ slot.suffix.toList) := by
  have hmethod : '\'' ∉ method.name.toList := by cases method <;> decide
  have hslot : '\'' ∉ slot.suffix.toList := by
    cases slot with
    | description => decide
    | summary => decide
    | parameter position =>
      have hdigits : '\'' ∉ (natText position).toList := by
        intro h
        have hmem : '\'' ∈ Nat.toDigits 10 position := by simpa [natText] using h
        exact absurd (Nat.isDigit_of_mem_toDigits (by decide) (by decide) hmem) (by decide)
      simp [TextSlot.suffix, String.toList_append, hdigits]
  simp [hmethod, hslot]

/-! ### Targets -/

theorem TextPlace.toList_target (place : TextPlace) :
    place.target.toList = "$.paths['".toList ++ (escaped place.path.toList ++ '\'' ::
      ']' :: '.' :: (place.method.name.toList ++ place.slot.suffix.toList)) := by
  simp [target, Overlay.toList_quotedKey, escaped, String.toList_append]

/-- Different places have different targets. -/
theorem TextPlace.target_injective {p q : TextPlace} (h : p.target = q.target) : p = q := by
  have hlist := congrArg String.toList h
  rw [toList_target, toList_target] at hlist
  obtain ⟨hpath, htail⟩ := append_cons_inj_of_not_mem (quote_not_mem_method_suffix _ _)
    (quote_not_mem_method_suffix _ _) (List.append_cancel_left hlist)
  have hrest := (List.cons.inj (List.cons.inj htail).2).2
  have hmethod : p.method.name.toList = q.method.name.toList := by
    rw [← takeWhile_method_suffix p.method p.slot, hrest, takeWhile_method_suffix]
  rw [hmethod] at hrest
  obtain ⟨path, method, slot⟩ := p
  obtain ⟨path', method', slot'⟩ := q
  rw [TextPlace.mk.injEq]
  refine ⟨?_, ?_, ?_⟩
  · exact String.toList_inj.mp (escaped_injective hpath)
  · exact Method.name_injective (String.toList_inj.mp hmethod)
  · exact TextSlot.suffix_injective (String.toList_inj.mp (List.append_cancel_left hrest))

end ApiTools
