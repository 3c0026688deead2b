import ApiTools.Number.Grouped
import ApiTools.Proofs.Number.Digits
import ApiTools.Proofs.Text.Pieces

/-!
# Numbers in groups of three

Digits are grouped from their end: every group after the first has three of them, and the first has
between one and three (`IsGrouped`, `isGrouped_groupDigits`).  Since digits are no commas, the
groups are the pieces between the commas of the text, and the digits are what is left of it without
commas (`groupedText_groups`).
-/

namespace ApiTools

open Text

variable {digits first : List Char} {rest : List (List Char)}

/-- The digits cut into groups of three, of which the first may be shorter but not empty. -/
structure IsGrouped (digits first : List Char) (rest : List (List Char)) : Prop where
  flatten : (first :: rest).flatten = digits
  pos : 0 < first.length
  le : first.length ≤ 3
  full : ∀ group ∈ rest, group.length = 3

namespace IsGrouped

theorem single (digit : Char) : IsGrouped [digit] [digit] [] :=
  ⟨rfl, Nat.one_pos, Nat.le_add_left 1 2, List.forall_mem_nil _⟩

theorem map_length (h : IsGrouped digits first rest) :
    rest.map List.length = List.replicate rest.length 3 := by
  rw [List.eq_replicate_iff, List.length_map]
  refine ⟨rfl, fun length hlength => ?_⟩
  obtain ⟨group, hgroup, rfl⟩ := List.mem_map.mp hlength
  exact h.full group hgroup

theorem length (h : IsGrouped digits first rest) :
    digits.length = first.length + 3 * rest.length := by
  rw [← h.flatten, List.length_flatten, List.map_cons, List.sum_cons, h.map_length,
    List.sum_replicate_nat, Nat.mul_comm]

/-- A digit in front of a full group stands alone. -/
theorem cons_full (digit : Char) (h : IsGrouped digits first rest) (hfull : first.length = 3) :
    IsGrouped (digit :: digits) [digit] (first :: rest) where
  flatten := by rw [List.flatten_cons, h.flatten, List.singleton_append]
  pos := Nat.one_pos
  le := Nat.le_add_left 1 2
  full := List.forall_mem_cons.mpr ⟨hfull, h.full⟩

/-- A digit in front of a group with room for it belongs to the group. -/
theorem cons_short (digit : Char) (h : IsGrouped digits first rest) (hshort : first.length ≠ 3) :
    IsGrouped (digit :: digits) (digit :: first) rest where
  flatten := by rw [List.flatten_cons, List.cons_append, ← List.flatten_cons, h.flatten]
  pos := Nat.succ_pos _
  le := by
    have hle := h.le
    rw [List.length_cons]
    omega
  full := h.full

end IsGrouped

/-- A comma is written exactly where the digits still to come are full groups. -/
theorem isGrouped_groupDigits (digit : Char) (digits : List Char) :
    ∃ first rest, IsGrouped (digit :: digits) first rest ∧
      groupDigits (digit :: digits) = [','].intercalate (first :: rest) := by
  induction digits generalizing digit with
  | nil => exact ⟨[digit], [], .single digit, by simp [groupDigits]⟩
  | cons next digits ih =>
    obtain ⟨first, rest, hgrouped, htext⟩ := ih next
    have hlength := hgrouped.length
    have hpos := hgrouped.pos
    have hle := hgrouped.le
    rw [List.length_cons] at hlength
    rw [groupDigits, htext]
    -- a multiple of three digits is still to come exactly where their first group is full
    split_ifs with hcomma
    · refine ⟨[digit], first :: rest, hgrouped.cons_full digit (by omega), ?_⟩
      rw [List.intercalate_cons_cons]
      rfl
    · refine ⟨digit :: first, rest, hgrouped.cons_short digit (by omega), ?_⟩
      cases rest <;> simp

/-- The text of a number, with its groups. -/
theorem exists_groups (n : Nat) : ∃ first rest, IsGrouped (Nat.toDigits 10 n) first rest ∧
    (∀ group ∈ first :: rest, ',' ∉ group) ∧
    (groupedText n).toList = [','].intercalate (first :: rest) := by
  have hne : Nat.toDigits 10 n ≠ [] := Nat.toDigits_ne_nil
  obtain ⟨digit, digits, hdigits⟩ := List.exists_cons_of_ne_nil hne
  obtain ⟨first, rest, hgrouped, htext⟩ := isGrouped_groupDigits digit digits
  rw [← hdigits] at hgrouped htext
  refine ⟨first, rest, hgrouped, fun group hgroup hcomma => ?_, ?_⟩
  · have hmem : ',' ∈ Nat.toDigits 10 n :=
      hgrouped.flatten ▸ List.mem_flatten.mpr ⟨group, hgroup, hcomma⟩
    exact absurd (isDigitChar_of_mem_toDigits hmem) (by decide)
  · rw [groupedText, String.toList_ofList, htext]

theorem filter_groupedText (n : Nat) :
    (groupedText n).toList.filter (· ≠ ',') = Nat.toDigits 10 n := by
  obtain ⟨first, rest, hgrouped, hcommas, htext⟩ := exists_groups n
  rw [htext, filter_intercalate hcommas, hgrouped.flatten]

theorem groupedText_injective : Function.Injective groupedText := by
  intro m n h
  apply toDigits_injective
  rw [← filter_groupedText, h, filter_groupedText]

/-- The digits are what is left without commas, the commas cut the text into groups of three digits
after a first one of one to three, and no two numbers have the same text. -/
theorem groupedText_groups (n : Nat) :
    (groupedText n).toList.filter (· ≠ ',') = Nat.toDigits 10 n ∧
    (∃ first count, 1 ≤ first ∧ first ≤ 3 ∧
      (splitChars ',' (groupedText n).toList).map List.length = first :: List.replicate count 3) ∧
    ∀ m, groupedText m = groupedText n ↔ m = n := by
  obtain ⟨first, rest, hgrouped, hcommas, htext⟩ := exists_groups n
  refine ⟨filter_groupedText n, ⟨first.length, rest.length, hgrouped.pos, hgrouped.le, ?_⟩,
    fun m => groupedText_injective.eq_iff⟩
  rw [htext, splitChars_intercalate (List.cons_ne_nil _ _) hcommas, List.map_cons,
    hgrouped.map_length]

example : groupedText 1234567 = "1,234,567" := by decide

end ApiTools
