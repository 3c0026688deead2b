import ApiTools.Proofs.Overlay.Generated
import ApiTools.Proofs.Spec.Redescribed

/-!
# What a generated overlay can change

A generated overlay changes the description and the summary of operations and the descriptions of
their parameters (`operationsDiffer_generate`).  The parameters need not be objects here: a null one
becomes an object with a description alone, and any other that is no object is left as it is.  The
step is `operationsDiffer_applyAction`, and `IsIn.of_operationsDiffer` keeps the places of the later
actions where they are.
-/

namespace ApiTools

namespace Document

/-! ### One text -/

theorem parameterRedescribed_putMember (parameter : Document) (text : String) :
    ParameterRedescribed parameter (parameter.putMember "description" (.text text)) := by
  cases parameter with
  | object members =>
    refine .described fun key hkey => ?_
    rw [Members.get?_set_of_ne _ _ (Ne.symm hkey)]
  | null =>
    exact .created (by simp [Members.get?_cons])
  | _ => exact .unchanged _

/-- A member other than those that a tool is made from may be set to anything. -/
theorem operationRedescribed_set (members : Members) {key : String}
    (hkey : key ∈ ["summary", "description"]) (value : Document) :
    OperationRedescribed (.object members) (.object (Members.set members key value)) := by
  have hget : ∀ other, other ∉ ["summary", "description"] →
      Members.get? members other = Members.get? (Members.set members key value) other := by
    intro other hother
    rw [Members.get?_set_of_ne]
    rintro rfl
    exact hother hkey
  refine ⟨rfl, ?_, ?_⟩
  · intro other hother
    apply hget
    simp_all
  · have hparameters : (Document.object members).getItems? "parameters"
        = (Document.object (Members.set members key value)).getItems? "parameters" :=
      getItems?_congr (hget "parameters" (by decide))
    rw [← hparameters]
    exact List.forall₂_same.mpr fun parameter _ => .unchanged parameter

/-- One parameter may be redescribed. -/
theorem operationRedescribed_replaceAt {operation before after : Document} {position : Nat}
    (h : operation.node? [.key "parameters", .index position] = some before)
    (hparameter : ParameterRedescribed before after) :
    OperationRedescribed operation
      (operation.replaceAt [.key "parameters", .index position] after) := by
  have hitem := node?_item_iff.mp h
  rcases getItems?_cases operation "parameters" with hnone | ⟨ms, parameters, rfl, hget⟩
  · simp [hnone] at hitem
  rw [getItems?_object hget, Option.getD_some] at hitem
  have hreplaced : (Document.object ms).replaceAt [.key "parameters", .index position] after
      = .object (Members.set ms "parameters" (.list (parameters.set position after))) := by
    have hlist : (Document.object ms).child? (.key "parameters") = some (.list parameters) := hget
    have hchild : (Document.list parameters).child? (.index position) = some before := hitem
    rw [replaceAt_cons hlist, replaceAt_cons hchild]
    rfl
  rw [hreplaced]
  refine ⟨rfl, ?_, ?_⟩
  · intro key hkey
    refine (Members.get?_set_of_ne _ _ ?_).symm
    rintro rfl
    exact hkey (by decide)
  · rw [getItems?_object hget, getItems?_object (Members.get?_set_self _ _ _)]
    exact forall₂_set ParameterRedescribed.unchanged hitem hparameter

end Document

open Document

namespace TextSlot

theorem key_eq_or (slot : TextSlot) : slot.key = "description" ∨ slot.key = "summary" := by
  cases slot <;> simp [key]

theorem positionOfKey?_key (slot : TextSlot) : positionOfKey? slot.key = none := by
  rcases slot.key_eq_or with h | h <;> rw [h] <;> decide

theorem isNumeric_key (slot : TextSlot) : (Step.key slot.key).isNumeric = false := by
  rcases slot.key_eq_or with h | h <;> rw [h] <;> decide

/-- The step: one text of an operation is set. -/
theorem operationRedescribed_putMember {operation node : Document} {slot : TextSlot}
    (hobject : operation.isObject = true) (h : operation.node? slot.owner = some node)
    (text : String) :
    OperationRedescribed operation
      (operation.replaceAt slot.owner (node.putMember slot.key (.text text))) := by
  cases slot with
  | parameter position =>
    exact operationRedescribed_replaceAt h (parameterRedescribed_putMember node text)
  | description | summary =>
    cases Option.some.inj h
    cases operation with
    | object members => exact operationRedescribed_set members (by decide) _
    | _ => cases hobject

end TextSlot

/-! ### One action -/

namespace TextPlace

variable {doc doc' operation operation' : Document} {place : TextPlace}
  {R : Document → Document → Prop}

theorem operationsDiffer_replaceAt (h : doc.node? place.operation = some operation)
    (hR : R operation operation') :
    OperationsDiffer R doc (doc.replaceAt place.operation operation') := by
  obtain ⟨paths, hpaths, h⟩ := node?_cons_eq_some h
  obtain ⟨item, hitem, h⟩ := node?_cons_eq_some h
  obtain ⟨node, hnode, h⟩ := node?_cons_eq_some h
  cases Option.some.inj h
  rw [TextPlace.operation, replaceAt_cons hpaths, replaceAt_cons hitem, replaceAt_cons hnode]
  refine SameBut.withChild rfl hpaths (SameBut.withChild trivial hitem ?_)
  exact SameBut.withChild ⟨place.method, rfl⟩ hnode hR

/-- An operation that stands in the one stands in the other, up to the relation. -/
theorem operation_of_operationsDiffer (h : OperationsDiffer R doc doc')
    (hnode : doc.node? place.operation = some operation) :
    ∃ operation', doc'.node? place.operation = some operation' ∧
      (operation = operation' ∨ R operation operation') := by
  obtain ⟨paths, hpaths, hnode⟩ := node?_cons_eq_some hnode
  obtain ⟨item, hitem, hnode⟩ := node?_cons_eq_some hnode
  obtain ⟨node, hmethod, hnode⟩ := node?_cons_eq_some hnode
  cases Option.some.inj hnode
  obtain ⟨paths', hpaths', hsame⟩ := h.child? hpaths
  obtain ⟨item', hitem', hsame⟩ := (SameBut.of_or hsame).child? hitem
  obtain ⟨operation', hoperation', hsame⟩ := (SameBut.of_or hsame).child? hmethod
  refine ⟨operation', ?_, hsame⟩
  rw [TextPlace.operation, node?, hpaths', Option.bind_some, node?, hitem', Option.bind_some, node?,
    hoperation', Option.bind_some, node?]

/-- The operation of the place is there, and so is what holds the text or may come to hold it. -/
def IsIn (doc : Document) (place : TextPlace) : Prop :=
  ∃ operation node, doc.node? place.operation = some operation ∧ operation.isObject = true ∧
    operation.node? place.slot.owner = some node

/-- Places that are there stay there. -/
theorem IsIn.of_operationsDiffer (hin : place.IsIn doc)
    (h : OperationsDiffer OperationRedescribed doc doc') : place.IsIn doc' := by
  obtain ⟨operation, node, hoperation, hobject, hnode⟩ := hin
  obtain ⟨operation', hoperation', rfl | hsame⟩ := operation_of_operationsDiffer h hoperation
  · exact ⟨operation, node, hoperation', hobject, hnode⟩
  have hobject' : operation'.isObject = true := hsame.isObject ▸ hobject
  -- The lists of parameters have the same length, so that the position is there in both.
  cases hslot : place.slot with
  | parameter position =>
    rw [hslot] at hnode
    obtain ⟨node', hnode', -⟩ := forall₂_getElem? hsame.parameters (node?_item_iff.mp hnode)
    refine ⟨operation', node', hoperation', hobject', ?_⟩
    rw [hslot]
    exact node?_item_iff.mpr hnode'
  | description | summary =>
    refine ⟨operation', operation', hoperation', hobject', ?_⟩
    rw [hslot]
    rfl

end TextPlace

namespace Overlay

variable {place : TextPlace} {edits : List (TextPlace × String)} {state : Document × ApplyStats}

theorem fst_applyAction (state : Document × ApplyStats) (action : OverlayAction) :
    (applyAction state action).1 = (action.apply state.1).1 := rfl

/-- One action changes texts only. -/
theorem operationsDiffer_applyAction (hread : place.Readable) (hin : place.IsIn state.1)
    (text : String) :
    OperationsDiffer OperationRedescribed state.1 (applyAction state (place.action text)).1 := by
  obtain ⟨operation, node, hoperation, hobject, hnode⟩ := hin
  have howner : state.1.node? place.owner = some node := by
    rw [TextPlace.owner_eq, node?_append, hoperation]
    exact hnode
  have hupdate : ((JsonPath.ofSteps place.steps).update state.1 (.text text)).1
      = state.1.replaceAt place.owner (node.putMember place.slot.key (.text text)) :=
    JsonPath.update_fst howner place.slot.positionOfKey?_key place.slot.isNumeric_key _
  rw [fst_applyAction, TextPlace.apply_action hread, hupdate, TextPlace.owner_eq,
    replaceAt_append hoperation]
  exact TextPlace.operationsDiffer_replaceAt hoperation
    (TextSlot.operationRedescribed_putMember hobject hnode text)

/-- A run of actions at places that are there changes texts only. -/
theorem operationsDiffer_foldl (hread : ∀ edit ∈ edits, edit.1.Readable)
    (hin : ∀ edit ∈ edits, edit.1.IsIn state.1) :
    OperationsDiffer OperationRedescribed state.1
      ((edits.map fun edit => edit.1.action edit.2).foldl applyAction state).1 := by
  induction edits generalizing state with
  | nil => exact .refl _
  | cons first rest ih =>
    rw [List.forall_mem_cons] at hread hin
    have hfirst := operationsDiffer_applyAction hread.1 hin.1 first.2
    have hrest := @ih (applyAction state (first.1.action first.2)) hread.2
      fun edit hedit => (hin.2 edit hedit).of_operationsDiffer hfirst
    rw [List.map_cons, List.foldl_cons]
    exact OperationsDiffer.trans (fun _ _ _ h h' => h.trans h') hfirst hrest

/-! ### The whole overlay -/

variable {settings : OverlaySettings} {spec : Spec} {op : Operation}

theorem isIn_of_mem (distinct : spec.HasDistinctPaths) (hop : op ∈ spec.operations)
    (h : place ∈ operationPlaces settings op) : place.IsIn spec.root := by
  obtain ⟨hpath, hmethod, hslot⟩ := of_mem_operationPlaces h
  have hnode := Spec.node?_of_mem_operations distinct hop
  rw [← hpath, ← hmethod] at hnode
  have hobject := (Spec.mem_operations.mp hop).2.2
  cases hcase : place.slot with
  | parameter position =>
    obtain ⟨parameter, hparameter, -⟩ := hslot position hcase
    refine ⟨op.node, parameter, hnode, hobject, ?_⟩
    rw [hcase]
    exact Spec.node?_parameter hparameter
  | description | summary =>
    refine ⟨op.node, op.node, hnode, hobject, ?_⟩
    rw [hcase]
    rfl

/-- A generated overlay changes texts only, whatever the parameters are. -/
theorem operationsDiffer_generate (settings : OverlaySettings) (assistant? : Option Assistant)
    (distinct : spec.HasDistinctPaths) (hpaths : ∀ op ∈ spec.operations, '\\' ∉ op.path.toList)
    (hpositions : ∀ op ∈ spec.operations, op.parameters.length ≤ maxPosition) :
    OperationsDiffer OperationRedescribed spec.root
      ((generate settings assistant? spec).overlay.apply spec.root).1 := by
  obtain ⟨edits, hplaces, hactions⟩ := actions_generate settings assistant? spec
  have hmem : ∀ edit ∈ edits, edit.1 ∈ places settings spec := by
    intro edit hedit
    rw [← hplaces]
    exact List.mem_map_of_mem hedit
  have hread : ∀ edit ∈ edits, edit.1.Readable := fun edit hedit =>
    readable_of_mem hpaths hpositions (hmem edit hedit)
  have hin : ∀ edit ∈ edits, edit.1.IsIn spec.root := by
    intro edit hedit
    obtain ⟨op, hop, hplace⟩ := mem_places (hmem edit hedit)
    exact isIn_of_mem distinct hop hplace
  unfold apply
  rw [hactions]
  exact @operationsDiffer_foldl edits (spec.root, .zero) hread hin

end Overlay

end ApiTools
