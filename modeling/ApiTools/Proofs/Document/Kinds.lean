import ApiTools.Proofs.Document.Created

/-!
# The kinds of the containers that a write creates

A write creates the containers that are missing on its way.  Where it creates a member of an object,
or puts a container in the place of null, the container is the one that the next step leads into: a
list before a position or digits, else an object.  An item that is missing from a list is created as
an object, whatever the next step is (`suits_setAt_iff`).
-/

namespace ApiTools.Document

variable {doc after node child value : Document} {step own next : Step}
  {rest before : List Step}

/-- The node is the container that a step leads into where nothing is there yet: a list for a
position and for digits, and else an object. -/
def Suits : Document → Step → Prop
  | list _, step => step.isNumeric = true
  | object _, step => step.isNumeric = false
  | _, _ => False

/-- A container stays a list or an object. -/
theorem Put.suits_iff (h : Put step own child doc after) (next : Step) :
    after.Suits next ↔ doc.Suits next := by
  cases h <;> rfl

theorem suits_freshFor (next : Step) : (freshFor next).Suits next := by
  unfold freshFor
  split
  · rename_i hnumeric
    exact hnumeric
  · rename_i hnumeric
    exact Bool.eq_false_iff.mpr hnumeric

/-- The container that is entered where nothing stood, or null, suits the next step unless it is
missing from a list; then it is an object. -/
theorem suits_entered_iff (hput : Put step own child doc after)
    (hnew : (doc.child? own).getD null = null) (next : Step) (rest : List Step) :
    ((doc.entered own (next :: rest)).Suits next ↔
        ¬ (next.isNumeric = true ∧ (∃ items, after = list items) ∧ doc.child? own = none)) ∧
      ((doc.entered own (next :: rest)).Suits next ∨
        (doc.entered own (next :: rest)).isObject = true) := by
  cases hchild : doc.child? own with
  | none =>
    cases hput with
    | @member members hown =>
      have hmade : (object members).entered own (next :: rest) = freshFor next := by
        rw [entered, hchild]
        rfl
      rw [hmade]
      exact ⟨iff_of_true (suits_freshFor next) (by simp), .inl (suits_freshFor next)⟩
    | @item items _ _ hnumeric hposition hown =>
      have hmade : (list items).entered own (next :: rest) = object [] := by
        rw [entered, hchild]
        rfl
      rw [hmade]
      simp [Suits, isObject]
  | some old =>
    obtain rfl : old = null := by rwa [hchild] at hnew
    have hmade : doc.entered own (next :: rest) = freshFor next := by
      rw [entered, hchild]
      rfl
    rw [hmade]
    exact ⟨iff_of_true (suits_freshFor next) (by simp), .inl (suits_freshFor next)⟩

/-- A node on the way of a write that was not there before, or was null, is afterwards the container
that the next step leads into, unless this step is a position, or digits, and the node was missing
from a list: then it is an object. -/
theorem suits_setAt_iff (h : doc.setAt (before ++ step :: next :: rest) value = (after, none))
    (hnew : (doc.node? (after.ownSteps (before ++ [step]))).getD null = null) :
    ∃ parent node, after.node? (after.ownSteps before) = some parent ∧
      after.node? (after.ownSteps (before ++ [step])) = some node ∧
      (node.Suits next ↔ ¬ (next.isNumeric = true ∧ (∃ items, parent = list items) ∧
        doc.node? (after.ownSteps (before ++ [step])) = none)) ∧
      (node.Suits next ∨ node.isObject = true) := by
  induction before generalizing doc after with
  | nil =>
    obtain ⟨own, child, hput, hchild⟩ := exists_put h
    have hown : after.ownSteps ([] ++ [step]) = [own] := hput.ownSteps_cons []
    have hold : doc.node? [own] = doc.child? own := by
      rw [node?]
      cases doc.child? own <;> rfl
    rw [hown, hold] at hnew ⊢
    obtain ⟨_, _, hbelow, -⟩ := exists_put hchild
    have hkind := suits_entered_iff hput hnew next rest
    rw [← hbelow.suits_iff, ← hbelow.isObject_eq] at hkind
    exact ⟨after, child, rfl, hput.node?_cons [], hkind⟩
  | cons first before ih =>
    obtain ⟨own, child, hput, hchild⟩ := exists_put h
    have hway : child.ownSteps (before ++ [step]) ≠ [] := by
      cases before <;> exact List.cons_ne_nil _ _
    have hrest : before ++ step :: next :: rest ≠ [] := by simp
    have hown : after.ownSteps (first :: before ++ [step])
        = own :: child.ownSteps (before ++ [step]) := hput.ownSteps_cons _
    rw [hown, ← node?_entered doc own hrest hway] at hnew ⊢
    rw [hput.ownSteps_cons, hput.node?_cons, hput.node?_cons]
    exact ih hchild hnew

/-- An item that is null becomes a list before a position. -/
theorem suits_setAt_iff_null :
    let doc : Document := object [("rows", list [null])]
    let after : Document := object [("rows", list [list [text "x"]])]
    doc.setAt [.key "rows", .index 0, .index 0] (text "x") = (after, none) ∧
      (doc.node? [.key "rows", .index 0]).getD null = null ∧
      ∃ node, after.node? [.key "rows", .index 0] = some node ∧ node.Suits (.index 0) := by
  intro doc after
  have hset : doc.setAt ([.key "rows"] ++ .index 0 :: .index 0 :: []) (text "x")
      = (after, none) := rfl
  obtain ⟨parent, node, -, hnode, hsuits, -⟩ := suits_setAt_iff hset rfl
  exact ⟨hset, rfl, node, hnode, hsuits.mpr fun h => by cases h.2.2⟩

/-- An item that is missing from a list does not become a list before a position. -/
theorem not_suits_setAt :
    ¬ ∀ (doc after value : Document) (before rest : List Step) (step next : Step),
      doc.setAt (before ++ step :: next :: rest) value = (after, none) →
      (doc.node? (after.ownSteps (before ++ [step]))).getD null = null →
      ∃ node, after.node? (after.ownSteps (before ++ [step])) = some node ∧ node.Suits next := by
  intro h
  obtain ⟨node, hnode, hsuits⟩ := h (object [("rows", list [])])
    (object [("rows", list [object [("0", text "x")]])]) (text "x") [.key "rows"] []
    (.index 0) (.index 0) rfl rfl
  obtain rfl : object [("0", text "x")] = node := Option.some.inj hnode
  cases hsuits

end ApiTools.Document
