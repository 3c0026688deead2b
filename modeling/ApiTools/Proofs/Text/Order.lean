import ApiTools.Text.Order
import Mathlib.Data.List.Lex
import Mathlib.Data.List.Nodup
import Mathlib.Data.List.Sort
import Mathlib.Data.String.Basic

/-!
# Texts in order

`List.eraseDups` keeps the first of equal items, so that the texts that `Text.sortedOnce` gives are in
strict order (`Text.pairwise_sortedOnce`).  `Text.notAfter` is the order of lists by the first place
at which they differ (`Text.notAfter_iff`); what is sorted by lists that tell it apart depends on the
items alone (`Text.mergeSort_notAfter_congr`).
-/

namespace ApiTools

/-! ### First occurrences -/

theorem nodup_eraseDups {α : Type} [BEq α] [LawfulBEq α] (xs : List α) : xs.eraseDups.Nodup := by
  cases xs with
  | nil => exact List.nodup_nil
  | cons x rest =>
    rw [List.eraseDups_cons, List.nodup_cons]
    refine ⟨?_, nodup_eraseDups _⟩
    rw [List.mem_eraseDups, List.mem_filter]
    simp
termination_by xs.length
decreasing_by exact Nat.lt_succ_of_le (List.length_filter_le ..)

theorem eraseDups_concat {α : Type} [BEq α] [LawfulBEq α] (xs : List α) (x : α) :
    (xs ++ [x]).eraseDups = if x ∈ xs then xs.eraseDups else xs.eraseDups ++ [x] := by
  rw [List.eraseDups_append]
  by_cases h : x ∈ xs
  · simp [List.removeAll, h]
  · simp [List.removeAll, h, List.eraseDups_cons]

namespace Text

/-! ### Texts, each once -/

theorem mem_sortedOnce {texts : List String} {text : String} :
    text ∈ sortedOnce texts ↔ text ∈ texts := by
  unfold sortedOnce sorted
  rw [List.mem_mergeSort, List.mem_eraseDups]

theorem pairwise_sortedOnce (texts : List String) : (sortedOnce texts).Pairwise (· < ·) := by
  have hle : (sortedOnce texts).Pairwise (· ≤ ·) := List.pairwise_mergeSort' _ _
  have hne : (sortedOnce texts).Nodup := List.nodup_mergeSort.mpr (nodup_eraseDups _)
  exact (hle.and hne).imp fun h => lt_of_le_of_ne h.1 h.2

/-! ### Lists of texts -/

theorem notAfter_iff {as bs : List String} : notAfter as bs = true ↔ as ≤ bs := by
  induction as generalizing bs with
  | nil =>
    have hle : ([] : List String) ≤ bs := not_lt.mp (List.not_lt_nil bs)
    exact iff_of_true (by rw [notAfter]) hle
  | cons a as ih =>
    cases bs with
    | nil =>
      have hlt : ([] : List String) < a :: as := List.nil_lt_cons a as
      exact iff_of_false (by rw [notAfter]; exact Bool.false_ne_true) (not_le.mpr hlt)
    | cons b bs =>
      rw [notAfter, Bool.or_eq_true, Bool.and_eq_true, decide_eq_true_eq, beq_iff_eq, ih, ← not_lt,
        ← not_lt]
      have hcons : b :: bs < a :: as ↔ b < a ∨ b = a ∧ bs < as := List.cons_lt_cons_iff
      rw [hcons]
      rcases lt_trichotomy a b with hlt | heq | hgt
      · simp [hlt, hlt.ne', not_lt.mpr hlt.le]
      · simp [heq]
      · simp [hgt, hgt.ne', not_lt.mpr hgt.le]

variable {α : Type} {key : α → List String} {items other : List α}

theorem pairwise_mergeSort_notAfter (key : α → List String) (items : List α) :
    (items.mergeSort fun a b => notAfter (key a) (key b)).Pairwise fun a b => key a ≤ key b := by
  have htrans : ∀ a b c, notAfter (key a) (key b) = true → notAfter (key b) (key c) = true →
      notAfter (key a) (key c) = true := fun _ _ _ hab hbc =>
    notAfter_iff.mpr ((notAfter_iff.mp hab).trans (notAfter_iff.mp hbc))
  have htotal : ∀ a b, (notAfter (key a) (key b) || notAfter (key b) (key a)) = true := by
    intro a b
    simpa [notAfter_iff] using le_total (key a) (key b)
  exact (List.pairwise_mergeSort htrans htotal items).imp notAfter_iff.mp

/-- Items that are told apart by their lists are sorted in strict order. -/
theorem pairwise_mergeSort_of_nodup (h : (items.map key).Nodup) :
    (items.mergeSort fun a b => notAfter (key a) (key b)).Pairwise fun a b => key a < key b := by
  have hne : (items.mergeSort fun a b => notAfter (key a) (key b)).Pairwise
      fun a b => key a ≠ key b := by
    rw [← List.pairwise_map]
    exact ((List.mergeSort_perm items _).map key).nodup_iff.mpr h
  exact ((pairwise_mergeSort_notAfter key items).and hne).imp fun h => lt_of_le_of_ne h.1 h.2

/-- It does not matter in which order the items are given. -/
theorem mergeSort_notAfter_congr (h : (items.map key).Nodup) (hperm : items.Perm other) :
    (items.mergeSort fun a b => notAfter (key a) (key b))
      = other.mergeSort fun a b => notAfter (key a) (key b) := by
  have hinjective := List.inj_on_of_nodup_map h
  have hsorted := (List.mergeSort_perm items fun a b => notAfter (key a) (key b)).trans
    (hperm.trans (List.mergeSort_perm other fun a b => notAfter (key a) (key b)).symm)
  refine List.Perm.eq_of_pairwise ?_ (pairwise_mergeSort_notAfter key items)
    (pairwise_mergeSort_notAfter key other) hsorted
  intro a b ha hb hab hba
  have ha : a ∈ items := List.mem_mergeSort.mp ha
  have hb : b ∈ items := hperm.mem_iff.mpr (List.mem_mergeSort.mp hb)
  exact hinjective ha hb (le_antisymm hab hba)

end Text

end ApiTools
