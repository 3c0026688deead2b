import ApiTools.Text.Blank
import Mathlib.Data.List.Basic

/-!
# Trimmed characters

What is left of characters after trimming is a stretch of them (`trimBy_isInfix`) that neither begins
nor ends with a character to be trimmed (`head_trimBy`, `getLast_trimBy`), and such a stretch stays
as it is (`trimBy_eq_self`).
-/

namespace ApiTools.Text

variable {p q : Char → Bool} {c : Char} {cs rest : List Char}

/-- After the beginning was trimmed, only characters at the end are left out. -/
theorem trimBy_isPrefix (p : Char → Bool) (cs : List Char) : trimBy p cs <+: cs.dropWhile p := by
  unfold trimBy
  rw [← List.reverse_suffix, List.reverse_reverse]
  exact List.dropWhile_suffix p

theorem trimBy_isInfix (p : Char → Bool) (cs : List Char) : trimBy p cs <:+: cs :=
  (trimBy_isPrefix p cs).isInfix.trans (List.dropWhile_suffix p).isInfix

theorem mem_of_mem_trimBy (h : c ∈ trimBy p cs) : c ∈ cs := (trimBy_isInfix p cs).subset h

/-- What was trimmed begins with a character that is kept. -/
theorem head_trimBy (h : trimBy p cs = c :: rest) : p c = false := by
  obtain ⟨tail, htail⟩ := trimBy_isPrefix p cs
  rw [h, List.cons_append] at htail
  have hhead := List.head_dropWhile_not p (by rw [← htail]; exact List.cons_ne_nil _ _)
  simpa only [← htail, List.head_cons] using hhead

/-- What was trimmed ends with a character that is kept. -/
theorem getLast_trimBy (h : (trimBy p cs).getLast? = some c) : p c = false := by
  unfold trimBy at h
  rw [List.getLast?_reverse] at h
  have hkept := List.head?_dropWhile_not p (cs.dropWhile p).reverse
  rw [h] at hkept
  exact hkept

theorem dropWhile_eq_self (h : ∀ c ∈ cs.head?, p c = false) : cs.dropWhile p = cs := by
  cases cs with
  | nil => rfl
  | cons c rest => exact List.dropWhile_cons_of_neg (by simp [h c rfl])

/-- There is nothing to trim between characters that are kept. -/
theorem trimBy_eq_self (hhead : ∀ c ∈ cs.head?, p c = false)
    (hlast : ∀ c ∈ cs.getLast?, p c = false) : trimBy p cs = cs := by
  unfold trimBy
  rw [dropWhile_eq_self hhead, dropWhile_eq_self, List.reverse_reverse]
  rwa [List.head?_reverse]

theorem filter_dropWhile (h : ∀ c, p c = true → q c = false) (cs : List Char) :
    (cs.dropWhile p).filter q = cs.filter q := by
  induction cs with
  | nil => rfl
  | cons c rest ih =>
    by_cases hc : p c = true
    · rw [List.dropWhile_cons_of_pos hc, ih, List.filter_cons_of_neg (by simp [h c hc])]
    · rw [List.dropWhile_cons_of_neg hc]

/-- Trimming leaves out no other characters than those that are to be trimmed. -/
theorem filter_trimBy (h : ∀ c, p c = true → q c = false) (cs : List Char) :
    (trimBy p cs).filter q = cs.filter q := by
  unfold trimBy
  rw [List.filter_reverse, filter_dropWhile h, List.filter_reverse, List.reverse_reverse,
    filter_dropWhile h]

end ApiTools.Text
