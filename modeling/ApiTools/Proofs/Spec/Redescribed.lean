import ApiTools.Proofs.Spec.Operations

/-!
# Descriptions that differ in texts

Two operations are redescribed versions of each other where only their summary, their description
and the descriptions of their parameters differ (`OperationRedescribed`).  Two API descriptions
whose path items are such have the same operations in the same order, up to these texts
(`forall₂_operations`).
-/

namespace ApiTools

/-! ### Lists related item by item -/

theorem forall₂_set {α : Type} {R : α → α → Prop} (hR : ∀ x, R x x) {xs : List α} {position : Nat}
    {x y : α} (hx : xs[position]? = some x) (hxy : R x y) :
    List.Forall₂ R xs (xs.set position y) := by
  induction xs generalizing position with
  | nil => cases hx
  | cons first rest ih =>
    cases position with
    | zero =>
      cases Option.some.inj hx
      exact .cons hxy (List.forall₂_same.mpr fun x _ => hR x)
    | succ position => exact .cons (hR first) (ih hx)

theorem forall₂_getElem? {α : Type} {R : α → α → Prop} {xs ys : List α} (h : List.Forall₂ R xs ys)
    {position : Nat} {x : α} (hx : xs[position]? = some x) :
    ∃ y, ys[position]? = some y ∧ R x y := by
  induction h generalizing position with
  | nil => cases hx
  | @cons _ first _ _ hfirst _ ih =>
    cases position with
    | zero =>
      cases Option.some.inj hx
      exact ⟨first, rfl, hfirst⟩
    | succ position => exact ih hx

namespace Document

/-! ### The relation between before and after -/

/-- A parameter is as it was, or has the same members but for its description; where null was, there
may be an object that is neither a reference nor has a name or a location. -/
inductive ParameterRedescribed : Document → Document → Prop where
  | unchanged (parameter : Document) : ParameterRedescribed parameter parameter
  | described {ms ns : Members}
    (h : ∀ key, key ≠ "description" → Members.get? ms key = Members.get? ns key) :
    ParameterRedescribed (.object ms) (.object ns)
  | created {ns : Members} (h : ∀ key ∈ ["$ref", "name", "in"], Members.get? ns key = none) :
    ParameterRedescribed .null (.object ns)

/-- The same operation, but for its summary, its description, and the descriptions of its
parameters. -/
structure OperationRedescribed (before after : Document) : Prop where
  isObject : before.isObject = after.isObject
  others : ∀ key, key ∉ ["summary", "description", "parameters"] → before.get? key = after.get? key
  parameters : List.Forall₂ ParameterRedescribed ((before.getItems? "parameters").getD [])
    ((after.getItems? "parameters").getD [])

variable {a b c : Document}

theorem ParameterRedescribed.trans (h : ParameterRedescribed a b) (h' : ParameterRedescribed b c) :
    ParameterRedescribed a c := by
  cases h with
  | unchanged => exact h'
  | described h =>
    cases h' with
    | unchanged => exact .described h
    | described h' => exact .described fun key hkey => (h key hkey).trans (h' key hkey)
  | created h =>
    cases h' with
    | unchanged => exact .created h
    | described h' =>
      refine .created fun key hkey => ?_
      rw [← h' key (by rintro rfl; revert hkey; decide)]
      exact h key hkey

theorem OperationRedescribed.refl (operation : Document) :
    OperationRedescribed operation operation :=
  ⟨rfl, fun _ _ => rfl, List.forall₂_same.mpr fun parameter _ => .unchanged parameter⟩

theorem OperationRedescribed.trans (h : OperationRedescribed a b) (h' : OperationRedescribed b c) :
    OperationRedescribed a c :=
  ⟨h.isObject.trans h'.isObject, fun key hkey => (h.others key hkey).trans (h'.others key hkey),
    Members.forall₂_trans (fun _ _ _ h h' => h.trans h') h.parameters h'.parameters⟩

/-- The same path item, but for the texts of its operations. -/
structure ItemRedescribed (before after : Document) : Prop where
  operations : ∀ method : Method,
    Option.Rel OperationRedescribed (before.get? method.name) (after.get? method.name)
  others : ∀ key, ¬ IsMethodKey key → before.get? key = after.get? key

/-- The same path items, but for the texts of their operations. -/
def PathsRedescribed (before after : Members) : Prop :=
  Members.Related (fun _ => ItemRedescribed) before after

theorem itemRedescribed_of_sameBut (h : SameBut IsMethodKey OperationRedescribed a b) :
    ItemRedescribed a b := by
  refine ⟨fun method => ?_, fun key hkey => h.get?_eq hkey⟩
  have hrel := h.get?_rel method.name
  generalize a.get? method.name = v?, b.get? method.name = w? at hrel ⊢
  cases hrel with
  | some hsame =>
    rcases hsame with rfl | hsame
    · exact .some (.refl _)
    · exact .some hsame
  | none => exact .none

/-- Descriptions that differ in the texts of their operations have such path items. -/
theorem pathsRedescribed_of_operationsDiffer (h : OperationsDiffer OperationRedescribed a b) :
    PathsRedescribed ((a.getMembers? "paths").getD []) ((b.getMembers? "paths").getD []) := by
  have hsame : ∀ paths : Members, PathsRedescribed paths paths :=
    Members.Related.refl fun _ item => itemRedescribed_of_sameBut (.refl item)
  have hrel := h.get?_rel "paths"
  unfold getMembers?
  generalize a.get? "paths" = v?, b.get? "paths" = w? at hrel ⊢
  cases hrel with
  | none => exact hsame []
  | some hitems =>
    rcases SameBut.of_or hitems with rfl | ⟨ms, ns, rfl, rfl, hrelated⟩
    · exact hsame _
    · exact hrelated.mono fun _ _ _ hitem =>
        itemRedescribed_of_sameBut (SameBut.of_or (hitem.imp_right And.right))

end Document

/-! ### Operations -/

/-- The same operation of the same path item, but for the texts. -/
structure Operation.Redescribed (before after : Operation) : Prop where
  path : before.path = after.path
  method : before.method = after.method
  node : Document.OperationRedescribed before.node after.node
  pathItem : Document.ItemRedescribed before.pathItem after.pathItem

namespace Spec

open Document

/-- The operations are the same in the same order, but for the texts. -/
theorem forall₂_operations {spec other : Spec}
    (h : PathsRedescribed (spec.paths?.getD []) (other.paths?.getD [])) :
    List.Forall₂ Operation.Redescribed spec.operations other.operations := by
  unfold operations
  refine List.rel_flatMap h ?_
  rintro ⟨path, item⟩ ⟨path', item'⟩ ⟨hpath, hitem⟩
  obtain rfl : path = path' := hpath
  unfold operationsOf
  refine List.rel_filterMap ?_ (List.forall₂_same.mpr fun method _ => rfl)
  rintro method _ rfl
  have hrel := hitem.operations method
  dsimp only
  generalize item.get? method.name = v?, item'.get? method.name = w? at hrel ⊢
  cases hrel with
  | none => exact .none
  | some hnode =>
    dsimp only
    rw [hnode.isObject]
    split_ifs
    · exact .some ⟨rfl, rfl, hnode, hitem⟩
    · exact .none

end Spec

end ApiTools
