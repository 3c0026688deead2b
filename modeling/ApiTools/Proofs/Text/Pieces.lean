import ApiTools.Text.Cut
import Mathlib.Data.List.Basic
import Mathlib.Tactic.SplitIfs

/-!
# Pieces of texts

A text is cut at a separator into pieces without it (`mem_split`), and pieces are joined with a
separator between neighbours.  Pieces without a separator come out of the cut as they were joined
(`splitChars_intercalate`), and they are all that is left without the separators
(`filter_intercalate`).
-/

namespace ApiTools.Text

variable {separator : Char}

/-! ### Cut texts -/

theorem mem_splitFrom {c : Char} {done cs piece : List Char}
    (hpiece : piece ∈ splitFrom separator done cs) (hc : c ∈ piece) : c ∈ done ∨ c ∈ cs := by
  induction cs generalizing done with
  | nil =>
    rw [splitFrom, List.mem_singleton] at hpiece
    subst hpiece
    exact .inl (List.mem_reverse.mp hc)
  | cons d rest ih =>
    rw [splitFrom] at hpiece
    split_ifs at hpiece with hd
    · rcases List.mem_cons.mp hpiece with rfl | hpiece
      · exact .inl (List.mem_reverse.mp hc)
      · exact .inr (List.mem_cons_of_mem _ ((ih hpiece).resolve_left List.not_mem_nil))
    · rcases ih hpiece with hdone | hrest
      · rcases List.mem_cons.mp hdone with rfl | hdone
        · exact .inr (List.mem_cons_self ..)
        · exact .inl hdone
      · exact .inr (List.mem_cons_of_mem _ hrest)

theorem not_mem_splitFrom {done cs piece : List Char}
    (hdone : separator ∉ done) (hpiece : piece ∈ splitFrom separator done cs) :
    separator ∉ piece := by
  induction cs generalizing done with
  | nil =>
    rw [splitFrom, List.mem_singleton] at hpiece
    subst hpiece
    rwa [List.mem_reverse]
  | cons d rest ih =>
    rw [splitFrom] at hpiece
    split_ifs at hpiece with hd
    · rcases List.mem_cons.mp hpiece with rfl | hpiece
      · rwa [List.mem_reverse]
      · exact ih List.not_mem_nil hpiece
    · refine ih ?_ hpiece
      rw [List.mem_cons, not_or]
      exact ⟨fun heq => hd heq.symm, hdone⟩

/-- A piece of a text holds characters of the text, and no separator. -/
theorem mem_split {s piece : String} (h : piece ∈ split s separator) {c : Char}
    (hc : c ∈ piece.toList) : c ∈ s.toList ∧ c ≠ separator := by
  obtain ⟨chars, hchars, rfl⟩ := List.mem_map.mp h
  rw [String.toList_ofList] at hc
  refine ⟨(mem_splitFrom hchars hc).resolve_left List.not_mem_nil, ?_⟩
  rintro rfl
  exact not_mem_splitFrom List.not_mem_nil hchars hc

theorem splitFrom_append (done cs ds : List Char) :
    splitFrom separator done (cs ++ separator :: ds)
      = splitFrom separator done cs ++ splitFrom separator [] ds := by
  induction cs generalizing done with
  | nil =>
    rw [List.nil_append, splitFrom.eq_2, if_pos rfl]
    rfl
  | cons c rest ih =>
    rw [List.cons_append, splitFrom, splitFrom]
    split_ifs
    · rw [ih, List.cons_append]
    · exact ih _

theorem splitFrom_of_not_mem {done cs : List Char} (h : separator ∉ cs) :
    splitFrom separator done cs = [done.reverse ++ cs] := by
  induction cs generalizing done with
  | nil => rw [splitFrom, List.append_nil]
  | cons c rest ih =>
    rw [List.mem_cons, not_or] at h
    rw [splitFrom, if_neg (Ne.symm h.1), ih h.2, List.reverse_cons, List.append_assoc]
    rfl

/-! ### Joined texts -/

/-- Pieces without a separator come out of the cut as they were joined. -/
theorem splitChars_intercalate {pieces : List (List Char)} (hne : pieces ≠ [])
    (h : ∀ piece ∈ pieces, separator ∉ piece) :
    splitChars separator ([separator].intercalate pieces) = pieces := by
  unfold splitChars
  induction pieces with
  | nil => exact absurd rfl hne
  | cons piece pieces ih =>
    rw [List.forall_mem_cons] at h
    cases pieces with
    | nil =>
      rw [List.intercalate_singleton, splitFrom_of_not_mem h.1]
      rfl
    | cons next pieces =>
      rw [List.intercalate_cons_cons, List.append_assoc, List.singleton_append, splitFrom_append,
        splitFrom_of_not_mem h.1, ih (List.cons_ne_nil _ _) h.2]
      rfl

/-- The separators are all that is added. -/
theorem filter_intercalate {pieces : List (List Char)}
    (h : ∀ piece ∈ pieces, separator ∉ piece) :
    ([separator].intercalate pieces).filter (· ≠ separator) = pieces.flatten := by
  induction pieces with
  | nil => rfl
  | cons piece pieces ih =>
    rw [List.forall_mem_cons] at h
    have hpiece : piece.filter (· ≠ separator) = piece :=
      List.filter_eq_self.mpr fun c hc => decide_eq_true (ne_of_mem_of_not_mem hc h.1)
    cases pieces with
    | nil => rw [List.intercalate_singleton, hpiece, List.flatten_singleton]
    | cons next pieces =>
      rw [List.intercalate_cons_cons, List.filter_append, List.filter_append, hpiece, ih h.2,
        List.filter_cons_of_neg (by simp), List.filter_nil, List.append_nil, ← List.flatten_cons]

theorem join_cons_cons (separator first second : String) (rest : List String) :
    (join separator (first :: second :: rest)).toList
      = first.toList ++ separator.toList ++ (join separator (second :: rest)).toList := by
  unfold join
  rw [String.toList_intercalate, String.toList_intercalate, List.map_cons, List.map_cons,
    List.intercalate_cons_cons, ← List.map_cons]

theorem mem_join {separator : String} {parts : List String} {c : Char}
    (h : c ∈ (join separator parts).toList) :
    c ∈ separator.toList ∨ ∃ part ∈ parts, c ∈ part.toList := by
  induction parts with
  | nil => simp [join] at h
  | cons first rest ih =>
    cases rest with
    | nil =>
      have hsingle : (join separator [first]) = first := by simp [join]
      rw [hsingle] at h
      exact .inr ⟨first, List.mem_cons_self .., h⟩
    | cons second rest =>
      rw [join_cons_cons, List.mem_append, List.mem_append] at h
      rcases h with (hfirst | hseparator) | hrest
      · exact .inr ⟨first, List.mem_cons_self .., hfirst⟩
      · exact .inl hseparator
      · exact (ih hrest).imp_right fun ⟨part, hpart, hc⟩ => ⟨part, List.mem_cons_of_mem _ hpart, hc⟩

end ApiTools.Text
