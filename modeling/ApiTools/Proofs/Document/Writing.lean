import ApiTools.Document.Steps
import ApiTools.Proofs.Document.Members

/-!
# A write that fails changes nothing

`Document.setAt` makes containers on its way, so a failure further on might leave them behind.  It
does not: a container that was made is `Vacant` for the step that follows, and from a vacant node on
every write succeeds (`setAt_of_vacant`).  So where a write fails, every node on the way was there
before, and `fst_setAt_of_error` puts each of them back as it was.
-/

namespace ApiTools.Document

variable {doc : Document} {step next : Step} {rest steps : List Step} {value : Document}

/-! ### Lists that are filled up -/

theorem padTo_of_lt {items : List Document} {position : Nat} (h : position < items.length)
    (filler : Document) : padTo items position filler = items := by
  unfold padTo
  rw [Nat.sub_eq_zero_of_le h, List.replicate_zero, List.append_nil]

/-- At the position there is the item that was there, or the filler. -/
theorem getElem?_padTo (items : List Document) (position : Nat) (filler : Document) :
    (padTo items position filler)[position]? = some (items[position]?.getD filler) := by
  by_cases h : position < items.length
  · rw [padTo_of_lt h, List.getElem?_eq_getElem h, Option.getD_some]
  · have hle : items.length ≤ position := Nat.le_of_not_lt h
    unfold padTo
    rw [List.getElem?_append_right hle, List.getElem?_replicate, if_pos (by omega),
      List.getElem?_eq_none hle, Option.getD_none]

/-! ### Nodes that were made -/

/-- The node is one that is made before a step: a list for a step into a list, or else an empty
object, which takes every step. -/
def Vacant (doc : Document) (step : Step) : Prop := doc = freshFor step ∨ doc = .object []

theorem vacant_orFresh_null (step : Step) : (orFresh .null step).Vacant step := .inl rfl

theorem vacant_cases (h : doc.Vacant step) :
    doc = .object [] ∨ doc = .list [] ∧ step.isNumeric = true := by
  rcases h with rfl | rfl
  · unfold freshFor
    by_cases hnumeric : step.isNumeric = true
    · exact .inr ⟨if_pos hnumeric, hnumeric⟩
    · exact .inl (if_neg hnumeric)
  · exact .inl rfl

/-- From a node that was made on, writing succeeds. -/
theorem setAt_of_vacant (h : doc.Vacant step) (value : Document) :
    (doc.setAt (step :: rest) value).2 = none := by
  induction rest generalizing doc step with
  | nil =>
    rcases vacant_cases h with rfl | ⟨rfl, hnumeric⟩
    · rfl
    · show (setChild _ step value).2 = none
      rw [setChild, if_pos hnumeric]
  | cons next rest ih =>
    rcases vacant_cases h with rfl | ⟨rfl, hnumeric⟩
    · exact ih (vacant_orFresh_null next)
    · -- The list is filled up with empty objects, and the last of them is the next node.
      rw [setAt, if_pos hnumeric]
      simp only [getElem?_padTo]
      exact ih (.inr rfl)

/-! ### Failures -/

/-- A child that is not there, or null, gives way to a vacant node, so a write that fails below it
found it there. -/
theorem orFresh_of_error {child : Document}
    (h : ((child.orFresh next).setAt (next :: rest) value).2.isSome) :
    child.orFresh next = child := by
  cases child with
  | null =>
    rw [setAt_of_vacant (vacant_orFresh_null next) value] at h
    cases h
  | _ => rfl

theorem fst_setChild_of_error (h : (doc.setChild step value).2.isSome) :
    (doc.setChild step value).1 = doc := by
  cases doc with
  | list items =>
    by_cases hnumeric : step.isNumeric = true
    · rw [setChild, if_pos hnumeric] at h
      cases h
    · rw [setChild, if_neg hnumeric]
  | object members => cases h
  | _ => rfl

/-- A write that fails leaves the document as it was. -/
theorem fst_setAt_of_error (h : (doc.setAt steps value).2.isSome) :
    (doc.setAt steps value).1 = doc := by
  induction steps generalizing doc with
  | nil => cases h
  | cons step rest ih =>
    cases rest with
    | nil => exact fst_setChild_of_error h
    | cons next rest =>
      cases doc with
      | list items =>
        by_cases hnumeric : step.isNumeric = true
        · rw [setAt, if_pos hnumeric] at h ⊢
          simp only [getElem?_padTo, Option.getD_some] at h ⊢
          generalize step.position?.getD items.length = position at h ⊢
          have hchild := orFresh_of_error h
          rw [hchild] at h
          rw [hchild, ih h]
          -- Beyond the end of the list an empty object would have been made.
          by_cases hlt : position < items.length
          · rw [padTo_of_lt hlt, List.getElem?_eq_getElem hlt, Option.getD_some,
              List.set_getElem_self]
          · rw [List.getElem?_eq_none (Nat.le_of_not_lt hlt), Option.getD_none,
              setAt_of_vacant (.inr rfl)] at h
            cases h
        · rw [setAt, if_neg hnumeric]
      | object members =>
        rw [setAt] at h ⊢
        have hchild := orFresh_of_error h
        dsimp only at h ⊢
        rw [hchild] at h ⊢
        rw [ih h]
        cases hget : Members.get? members step.keyText with
        | none =>
          -- A member that is not there would have been made.
          rw [hget, Option.getD_none] at h hchild
          rw [← hchild, setAt_of_vacant (vacant_orFresh_null next)] at h
          cases h
        | some child => rw [Option.getD_some, Members.set_of_get?_eq_some hget]
      | _ => rfl

end ApiTools.Document
