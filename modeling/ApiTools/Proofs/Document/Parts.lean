import ApiTools.Proofs.Document.Members
import ApiTools.Proofs.Spec.References
import ApiTools.Tool.Body

/-!
# Parts of a document

`Document.parts` lists all nodes of a document, as many as `Document.size` counts.  What a reference
leads to is a part of the description (`mem_parts_of_target?`).  `Document.RefsIn P` says of a
document that every reference in it has the property `P`; parts of the document have it then, and
the edits of objects that do not write a reference keep it.
-/

namespace ApiTools

namespace Document

mutual
/-- All nodes of a document, itself first. -/
def parts : Document → List Document
  | .list items => .list items :: partsOfItems items
  | .object members => .object members :: partsOfMembers members
  | scalar => [scalar]

/-- All nodes of the items. -/
def partsOfItems : List Document → List Document
  | [] => []
  | item :: rest => item.parts ++ partsOfItems rest

/-- All nodes of the values of the members. -/
def partsOfMembers : List (String × Document) → List Document
  | [] => []
  | (_, value) :: rest => value.parts ++ partsOfMembers rest
end

mutual
theorem length_parts : (doc : Document) → doc.parts.length = doc.size
  | .list items => congrArg (· + 1) (length_partsOfItems items)
  | .object members => congrArg (· + 1) (length_partsOfMembers members)
  | .null | .bool _ | .number _ | .text _ => rfl

theorem length_partsOfItems : (items : List Document) →
    (partsOfItems items).length = sizeItems items
  | [] => rfl
  | item :: rest => by
    rw [partsOfItems, sizeItems, List.length_append, length_parts item, length_partsOfItems rest]

theorem length_partsOfMembers : (members : List (String × Document)) →
    (partsOfMembers members).length = sizeMembers members
  | [] => rfl
  | (_, value) :: rest => by
    rw [partsOfMembers, sizeMembers, List.length_append, length_parts value,
      length_partsOfMembers rest]
end

/-! ### Membership -/

variable {doc part node : Document} {items : List Document} {members : Members}

theorem self_mem_parts (doc : Document) : doc ∈ doc.parts := by
  cases doc <;> exact List.mem_cons_self ..

theorem mem_partsOfItems : part ∈ partsOfItems items ↔ ∃ item ∈ items, part ∈ item.parts := by
  induction items with
  | nil => simp [partsOfItems]
  | cons item rest ih => rw [partsOfItems, List.mem_append, ih, List.exists_mem_cons_iff]

theorem mem_partsOfMembers :
    part ∈ partsOfMembers members ↔ ∃ entry ∈ members, part ∈ entry.2.parts := by
  induction members with
  | nil => simp [partsOfMembers]
  | cons entry rest ih => rw [partsOfMembers, List.mem_append, ih, List.exists_mem_cons_iff]

theorem mem_parts_list :
    part ∈ (Document.list items).parts ↔
      part = .list items ∨ ∃ item ∈ items, part ∈ item.parts := by
  rw [parts, List.mem_cons, mem_partsOfItems]

theorem mem_parts_object : part ∈ (Document.object members).parts ↔
    part = .object members ∨ ∃ entry ∈ members, part ∈ entry.2.parts := by
  rw [parts, List.mem_cons, mem_partsOfMembers]

theorem forall_mem_parts_list {P : Document → Prop} :
    (∀ part ∈ (Document.list items).parts, P part) ↔
      P (.list items) ∧ ∀ item ∈ items, ∀ part ∈ item.parts, P part := by
  constructor
  · intro h
    exact ⟨h _ (self_mem_parts _), fun item hitem part hpart =>
      h part (mem_parts_list.mpr (.inr ⟨item, hitem, hpart⟩))⟩
  · rintro ⟨hself, hitems⟩ part hpart
    rcases mem_parts_list.mp hpart with rfl | ⟨item, hitem, hpart⟩
    · exact hself
    · exact hitems item hitem part hpart

theorem forall_mem_parts_object {P : Document → Prop} :
    (∀ part ∈ (Document.object members).parts, P part) ↔
      P (.object members) ∧ ∀ entry ∈ members, ∀ part ∈ entry.2.parts, P part := by
  constructor
  · intro h
    exact ⟨h _ (self_mem_parts _), fun entry hentry part hpart =>
      h part (mem_parts_object.mpr (.inr ⟨entry, hentry, hpart⟩))⟩
  · rintro ⟨hself, hmembers⟩ part hpart
    rcases mem_parts_object.mp hpart with rfl | ⟨entry, hentry, hpart⟩
    · exact hself
    · exact hmembers entry hentry part hpart

mutual
/-- The parts of a part are parts. -/
theorem mem_parts_trans : (doc : Document) → part ∈ node.parts → node ∈ doc.parts →
    part ∈ doc.parts
  | .list items, hpart, hnode => by
    rw [parts, List.mem_cons] at hnode ⊢
    rcases hnode with rfl | hnode
    · rwa [parts, List.mem_cons] at hpart
    · exact .inr (mem_partsOfItems_trans items hpart hnode)
  | .object members, hpart, hnode => by
    rw [parts, List.mem_cons] at hnode ⊢
    rcases hnode with rfl | hnode
    · rwa [parts, List.mem_cons] at hpart
    · exact .inr (mem_partsOfMembers_trans members hpart hnode)
  | .null, hpart, hnode | .bool _, hpart, hnode | .number _, hpart, hnode
  | .text _, hpart, hnode => by
    rw [parts.eq_def, List.mem_singleton] at hnode
    rwa [hnode] at hpart

theorem mem_partsOfItems_trans : (items : List Document) → part ∈ node.parts →
    node ∈ partsOfItems items → part ∈ partsOfItems items
  | [], _, hnode => by cases hnode
  | item :: rest, hpart, hnode => by
    rw [partsOfItems, List.mem_append] at hnode ⊢
    exact hnode.imp (mem_parts_trans item hpart) (mem_partsOfItems_trans rest hpart)

theorem mem_partsOfMembers_trans : (members : List (String × Document)) → part ∈ node.parts →
    node ∈ partsOfMembers members → part ∈ partsOfMembers members
  | [], _, hnode => by cases hnode
  | (_, value) :: rest, hpart, hnode => by
    rw [partsOfMembers, List.mem_append] at hnode ⊢
    exact hnode.imp (mem_parts_trans value hpart) (mem_partsOfMembers_trans rest hpart)
end

/-- What is read at a key is a part. -/
theorem mem_parts_of_get? {key : String} (h : doc.get? key = some node) : node ∈ doc.parts := by
  cases doc with
  | object members =>
    exact mem_parts_object.mpr (.inr ⟨_, Members.mem_of_get? h, self_mem_parts node⟩)
  | _ => cases h

theorem mem_parts_of_item (h : node ∈ items) : node ∈ (Document.list items).parts :=
  mem_parts_list.mpr (.inr ⟨node, h, self_mem_parts node⟩)

theorem mem_parts_of_getItems? {key : String} (h : doc.getItems? key = some items)
    (hnode : node ∈ items) : node ∈ doc.parts := by
  obtain ⟨value, hvalue, hitems⟩ := Option.bind_eq_some_iff.mp h
  cases value <;> cases hitems
  exact mem_parts_trans doc (mem_parts_of_item hnode) (mem_parts_of_get? hvalue)

theorem mem_parts_of_getMembers? {key : String} (h : doc.getMembers? key = some members)
    {entry : String × Document} (hentry : entry ∈ members) : entry.2 ∈ doc.parts := by
  obtain ⟨value, hvalue, hmembers⟩ := Option.bind_eq_some_iff.mp h
  cases value <;> cases hmembers
  have hpart : entry.2 ∈ (Document.object members).parts :=
    mem_parts_object.mpr (.inr ⟨entry, hentry, self_mem_parts _⟩)
  exact mem_parts_trans doc hpart (mem_parts_of_get? hvalue)

end Document

namespace Spec

open Document

variable {doc node : Document}

theorem mem_parts_of_child? {token : List Char} (h : child? doc token = some node) :
    node ∈ doc.parts := by
  unfold child? at h
  split at h
  · exact mem_parts_of_get? h
  · obtain ⟨position, -, hget⟩ := Option.bind_eq_some_iff.mp h
    exact mem_parts_of_item (List.mem_of_getElem? hget)
  · cases h

theorem mem_parts_of_follow? {tokens : List (List Char)} (h : follow? doc tokens = some node) :
    node ∈ doc.parts := by
  induction tokens generalizing doc with
  | nil =>
    cases Option.some.inj h
    exact self_mem_parts _
  | cons token rest ih =>
    obtain ⟨child, hchild, hnode⟩ := Option.bind_eq_some_iff.mp h
    exact mem_parts_trans doc (ih hnode) (mem_parts_of_child? hchild)

/-- What a reference leads to is a part of the description. -/
theorem mem_parts_of_target? {spec : Spec} {reference : String}
    (h : spec.target? reference = some node) : node ∈ spec.root.parts := by
  unfold target? at h
  split at h
  · cases Option.some.inj h
    exact self_mem_parts _
  · exact mem_parts_of_follow? h
  · cases h

theorem ChainsTo.eq_or_mem_parts {spec : Spec} {hops : Nat} (h : spec.ChainsTo hops doc node) :
    node = doc ∨ node ∈ spec.root.parts := by
  induction h with
  | here => exact .inl rfl
  | hop _ htarget _ ih =>
    rcases ih with rfl | hpart
    · exact .inr (mem_parts_of_target? htarget)
    · exact .inr hpart

/-- References lead from a document to itself or to parts of the description. -/
theorem resolve_mem (spec : Spec) (doc : Document) :
    spec.resolve doc = doc ∨ spec.resolve doc ∈ spec.root.parts := by
  obtain ⟨hops, -, hchain, -⟩ := spec.chainsTo_resolveWithin maxHops doc
  exact hchain.eq_or_mem_parts

end Spec

namespace Document

/-! ### References with a property -/

/-- Every reference in the document has the property. -/
def RefsIn (P : String → Prop) (doc : Document) : Prop :=
  ∀ members, .object members ∈ doc.parts →
    ∀ reference, ("$ref", .text reference) ∈ members → P reference

/-- The references in a document. -/
def references (doc : Document) : List String :=
  doc.parts.flatMap fun part => (part.members?.getD []).filterMap fun entry =>
    if entry.1 = "$ref" then entry.2.text? else none

theorem refsIn_iff {P : String → Prop} {doc : Document} :
    RefsIn P doc ↔ ∀ reference ∈ doc.references, P reference := by
  unfold references
  simp only [List.mem_flatMap, List.mem_filterMap]
  constructor
  · rintro h reference ⟨part, hpart, ⟨key, value⟩, hentry, href⟩
    rw [Option.ite_none_right_eq_some] at href
    obtain ⟨rfl, htext⟩ := href
    cases value <;> cases htext
    cases part with
    | object members => exact h members hpart reference hentry
    | _ => cases hentry
  · intro h members hmembers reference hentry
    exact h reference ⟨_, hmembers, _, hentry, rfl⟩

/-- The member is no reference other than one with the property, and its value has none. -/
def EntryRefsIn (P : String → Prop) (entry : String × Document) : Prop :=
  RefsIn P entry.2 ∧ ∀ reference, entry = ("$ref", .text reference) → P reference

variable {P : String → Prop} {value : Document} {key : String}

theorem refsIn_of_scalar (h : doc.parts = [doc]) (hobject : doc.isObject = false) :
    RefsIn P doc := by
  intro members hmem
  rw [h, List.mem_singleton] at hmem
  subst hmem
  cases hobject

theorem refsIn_list : RefsIn P (.list items) ↔ ∀ item ∈ items, RefsIn P item := by
  constructor
  · intro h item hitem members hmem
    exact h members (mem_parts_list.mpr (.inr ⟨item, hitem, hmem⟩))
  · intro h members hmem
    rcases mem_parts_list.mp hmem with heq | ⟨item, hitem, hmem⟩
    · cases heq
    · exact h item hitem members hmem

theorem refsIn_object : RefsIn P (.object members) ↔ ∀ entry ∈ members, EntryRefsIn P entry := by
  constructor
  · intro h entry hentry
    refine ⟨fun inner hmem => h inner (mem_parts_object.mpr (.inr ⟨entry, hentry, hmem⟩)), ?_⟩
    rintro reference rfl
    exact h members (self_mem_parts _) reference hentry
  · intro h inner hmem reference href
    rcases mem_parts_object.mp hmem with heq | ⟨entry, hentry, hmem⟩
    · cases heq
      exact (h _ href).2 reference rfl
    · exact (h entry hentry).1 inner hmem reference href

/-- Under a key that is not that of a reference anything without references may stand. -/
theorem EntryRefsIn.of_ne (hkey : key ≠ "$ref") (h : RefsIn P value) :
    EntryRefsIn P (key, value) :=
  ⟨h, fun _ heq => absurd (Prod.mk.inj heq).1 hkey⟩

namespace RefsIn

theorem text (s : String) : RefsIn P (.text s) := refsIn_of_scalar rfl rfl

theorem of_part (h : RefsIn P doc) (hpart : part ∈ doc.parts) : RefsIn P part :=
  fun members hmem => h members (mem_parts_trans doc hmem hpart)

theorem get? (h : RefsIn P doc) (hvalue : doc.get? key = some value) : RefsIn P value :=
  h.of_part (mem_parts_of_get? hvalue)

theorem item (h : RefsIn P doc) (hitems : doc.getItems? key = some items)
    (hvalue : value ∈ items) : RefsIn P value :=
  h.of_part (mem_parts_of_getItems? hitems hvalue)

/-- The items below a key, where there are any. -/
theorem itemsAt (h : RefsIn P doc) (key : String) :
    RefsIn P (.list ((doc.getItems? key).getD [])) := by
  rw [refsIn_list]
  intro item hitem
  cases hitems : doc.getItems? key with
  | none => simp [hitems] at hitem
  | some items =>
    rw [hitems] at hitem
    exact h.item hitems hitem

/-- The members below a key, where there are any. -/
theorem membersAt (h : RefsIn P doc) (key : String) :
    RefsIn P (.object ((doc.getMembers? key).getD [])) := by
  cases hmembers : doc.getMembers? key with
  | none => exact refsIn_object.mpr fun _ hentry => absurd hentry List.not_mem_nil
  | some members =>
    obtain ⟨value, hvalue, hobject⟩ := Option.bind_eq_some_iff.mp hmembers
    cases value <;> cases hobject
    exact h.get? hvalue

/-- The reference that a document is has the property. -/
theorem ref (h : RefsIn P doc) {reference : String}
    (href : doc.getText? "$ref" = some reference) : P reference := by
  obtain ⟨value, hvalue, htext⟩ := Option.bind_eq_some_iff.mp href
  cases value <;> cases htext
  cases doc with
  | object members =>
    exact h members (self_mem_parts _) reference (Members.mem_of_get? hvalue)
  | _ => cases hvalue

theorem mono {Q : String → Prop} (hPQ : ∀ reference, P reference → Q reference)
    (h : RefsIn P doc) : RefsIn Q doc :=
  fun members hmembers reference href => hPQ reference (h members hmembers reference href)

/-- Some of the members have the references of these only. -/
theorem subset (h : RefsIn P (.object members)) {others : Members} (hsub : others ⊆ members) :
    RefsIn P (.object others) :=
  refsIn_object.mpr fun entry hentry => refsIn_object.mp h entry (hsub hentry)

theorem set (h : RefsIn P (.object members)) (hentry : EntryRefsIn P (key, value)) :
    RefsIn P (.object (Members.set members key value)) := by
  rw [refsIn_object] at h ⊢
  intro entry hmem
  rcases Members.mem_set hmem with hmem | rfl
  · exact h entry hmem
  · exact hentry

end RefsIn

end Document

end ApiTools
