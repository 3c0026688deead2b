import ApiTools.Proofs.Document.Keys

/-!
# Overwriting several nodes

`Document.Overwritten` collects what becomes of a document when the nodes at some places get one
value: it is read at each of the places, and every other node keeps its value, or at least its
`outline` where one of the places lies below it.  Overwriting the nodes one after another comes to
this where all lie equally deep (`overwritten_foldl`).  Then no two of the places lie on one way, so
none of them is lost or written into by what is overwritten before or after it.
-/

namespace ApiTools.Document

variable {doc after node child value : Document} {step : Step} {steps p q : List Step}
  {places : List (List Step)}

/-! ### Nodes without their children -/

/-- A node without what stands below it: the keys of an object in their order, the number of the
items of a list, and a scalar as it is. -/
def outline : Document → Document
  | object members => object (members.map fun entry => (entry.1, null))
  | list items => list (items.map fun _ => null)
  | scalar => scalar

theorem outline_object (members : Members) :
    (object members).outline = object ((Members.keys members).map fun key => (key, null)) := by
  rw [Members.keys, List.map_map]
  rfl

/-- The outline of a node does not change with a child of it. -/
theorem outline_withChild (h : doc.child? step = some child) (value : Document) :
    (doc.withChild step value).outline = doc.outline := by
  rcases child?_cases h with ⟨members, name, rfl, rfl, hget⟩ | ⟨items, position, rfl, rfl, -⟩
  · show (object (Members.set members name value)).outline = _
    rw [outline_object, outline_object, Members.keys_set, if_pos (Members.mem_keys_of_get? hget)]
  · show list ((items.set position value).map fun _ => null) = list (items.map fun _ => null)
    simp

/-! ### One node -/

theorem node?_replaceAt_self (h : doc.node? steps = some node) (value : Document) :
    (doc.replaceAt steps value).node? steps = some value := by
  have hbelow := node?_replaceAt_append h value []
  rwa [List.append_nil] at hbelow

/-- Writing back the child that is there changes nothing. -/
theorem withChild_of_child? (h : doc.child? step = some child) :
    doc.withChild step child = doc := by
  rcases child?_cases h with ⟨members, name, rfl, rfl, hget⟩ | ⟨items, position, rfl, rfl, hget⟩
  · exact congrArg object (Members.set_of_get?_eq_some hget)
  · obtain ⟨hlt, rfl⟩ := List.getElem?_eq_some_iff.mp hget
    exact congrArg list (List.set_getElem_self hlt)

/-- Writing back the node that is there changes nothing. -/
theorem replaceAt_of_node? (h : doc.node? steps = some value) : doc.replaceAt steps value = doc := by
  induction steps generalizing doc with
  | nil => exact (Option.some.inj h).symm
  | cons step rest ih =>
    obtain ⟨child, hchild, hnode⟩ := node?_cons_eq_some h
    rw [replaceAt_cons hchild, ih hnode, withChild_of_child? hchild]

/-- Every node that is not overwritten, nor lies below, keeps its outline. -/
theorem outline_node?_replaceAt (h : doc.node? p = some node) (hq : ¬ p <+: q)
    (value : Document) :
    ((doc.replaceAt p value).node? q).map outline = (doc.node? q).map outline := by
  induction p generalizing doc q with
  | nil => exact absurd List.nil_prefix hq
  | cons step p ih =>
    obtain ⟨child, hchild, hnode⟩ := node?_cons_eq_some h
    rw [replaceAt_cons hchild]
    cases q with
    | nil => exact congrArg some (outline_withChild hchild _)
    | cons other q =>
      rw [node?, node?, child?_withChild hchild]
      by_cases ho : other = step
      · subst ho
        rw [if_pos rfl, hchild, Option.bind_some, Option.bind_some]
        exact ih hnode fun hpre => hq (List.cons_prefix_cons.mpr ⟨rfl, hpre⟩)
      · rw [if_neg ho]

theorem HasDistinctKeys.withChild (h : doc.HasDistinctKeys) (hvalue : value.HasDistinctKeys)
    (step : Step) : (doc.withChild step value).HasDistinctKeys := by
  cases doc with
  | object members =>
    obtain ⟨hkeys, hmembers⟩ := hasDistinctKeys_object.mp h
    refine hasDistinctKeys_object.mpr ⟨Members.nodup_keys_set hkeys _ _, fun entry hentry => ?_⟩
    rcases Members.mem_set hentry with hold | rfl
    · exact hmembers entry hold
    · exact hvalue
  | list items =>
    unfold Document.withChild
    dsimp only
    split
    · refine hasDistinctKeys_list.mpr fun item hitem => ?_
      rcases List.mem_or_eq_of_mem_set hitem with hold | rfl
      · exact hasDistinctKeys_list.mp h item hold
      · exact hvalue
    · exact h
  | _ => exact h

theorem HasDistinctKeys.replaceAt (h : doc.HasDistinctKeys) (hvalue : value.HasDistinctKeys)
    (hnode : doc.node? steps = some node) : (doc.replaceAt steps value).HasDistinctKeys := by
  induction steps generalizing doc with
  | nil => exact hvalue
  | cons step rest ih =>
    obtain ⟨child, hchild, hrest⟩ := node?_cons_eq_some hnode
    rw [replaceAt_cons hchild]
    exact h.withChild (ih (h.of_child hchild) hrest) step

/-! ### Several nodes -/

/-- Places that lie equally deep lie beside each other. -/
theorem apart_of_length_eq (h : p.length = q.length) (hne : p ≠ q) : Apart p q :=
  ⟨fun hpre => hne (hpre.eq_of_length h), fun hpre => hne (hpre.eq_of_length h.symm).symm⟩

/-- A node that lies as deep as the overwritten one is there still. -/
theorem isSome_node?_replaceAt (h : doc.node? p = some node) (hlength : p.length = q.length)
    (value : Document) : ((doc.replaceAt p value).node? q).isSome = (doc.node? q).isSome := by
  by_cases heq : p = q
  · subst heq
    rw [node?_replaceAt_self h, h]
    rfl
  · rw [node?_replaceAt_of_apart h (apart_of_length_eq hlength heq)]

/-- What becomes of a document when the nodes at the places get the value. -/
structure Overwritten (doc : Document) (places : List (List Step)) (value after : Document) :
    Prop where
  /-- The value is read at each of the places. -/
  written : ∀ p ∈ places, after.node? p = some value
  /-- Nodes beside all of the places keep their values. -/
  kept : ∀ q, (∀ p ∈ places, Apart p q) → after.node? q = doc.node? q
  /-- Nodes above them keep their outlines, and no node is added. -/
  outlined : ∀ q, (∀ p ∈ places, ¬ p <+: q) →
    (after.node? q).map outline = (doc.node? q).map outline

/-- Nodes that lie equally deep may be overwritten one after another. -/
theorem overwritten_foldl {depth : Nat}
    (h : ∀ p ∈ places, p.length = depth ∧ (doc.node? p).isSome) (value : Document) :
    Overwritten doc places value
      (places.foldl (fun doc steps => doc.replaceAt steps value) doc) := by
  induction places generalizing doc with
  | nil => exact ⟨by simp, fun _ _ => rfl, fun _ _ => rfl⟩
  | cons first rest ih =>
    obtain ⟨⟨hlength, hthere⟩, hrest⟩ := List.forall_mem_cons.mp h
    obtain ⟨node, hnode⟩ := Option.isSome_iff_exists.mp hthere
    have hself := node?_replaceAt_self hnode value
    have hstill : ∀ p ∈ rest, p.length = depth ∧ ((doc.replaceAt first value).node? p).isSome := by
      intro p hp
      rw [isSome_node?_replaceAt hnode (hlength.trans (hrest p hp).1.symm)]
      exact hrest p hp
    have hafter := ih hstill
    refine ⟨List.forall_mem_cons.mpr ⟨?_, hafter.written⟩, fun q hq => ?_, fun q hq => ?_⟩
    · by_cases hagain : first ∈ rest
      · exact hafter.written first hagain
      · rw [List.foldl_cons, hafter.kept first fun p hp => ?_, hself]
        exact apart_of_length_eq ((hrest p hp).1.trans hlength.symm) (ne_of_mem_of_not_mem hp hagain)
    · obtain ⟨hfirst, hothers⟩ := List.forall_mem_cons.mp hq
      rw [List.foldl_cons, hafter.kept q hothers, node?_replaceAt_of_apart hnode hfirst]
    · obtain ⟨hfirst, hothers⟩ := List.forall_mem_cons.mp hq
      rw [List.foldl_cons, hafter.outlined q hothers, outline_node?_replaceAt hnode hfirst]

/-- Overwriting nodes that have the value already changes nothing. -/
theorem foldl_replaceAt_of_node? (h : ∀ p ∈ places, doc.node? p = some value) :
    places.foldl (fun doc steps => doc.replaceAt steps value) doc = doc := by
  induction places with
  | nil => rfl
  | cons first rest ih =>
    obtain ⟨hfirst, hrest⟩ := List.forall_mem_cons.mp h
    rw [List.foldl_cons, replaceAt_of_node? hfirst, ih hrest]

end ApiTools.Document
