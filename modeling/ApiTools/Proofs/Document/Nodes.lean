import ApiTools.Document.Steps
import ApiTools.Proofs.Document.Members
import Mathlib.Data.List.Infix

/-!
# Nodes of a document

`Document.node?` reads the node at a list of steps where a key leads into an object only and a
position into a list only, so that different steps lead to different nodes.  Overwriting a node
(`replaceAt`) is seen at this node and below it (`node?_replaceAt_append`), and nowhere beside it
(`node?_replaceAt_of_apart`).  `setMember` is the edit that later proofs are about: one member of
one object is set.
-/

namespace ApiTools.Document

/-! ### Children -/

/-- The child at a step: a key leads into an object, a position into a list. -/
def child? : Document → Step → Option Document
  | .object members, .key name => Members.get? members name
  | .list items, .index position => items[position]?
  | _, _ => none

/-- The node at the steps. -/
def node? : Document → List Step → Option Document
  | doc, [] => some doc
  | doc, step :: rest => (doc.child? step).bind (node? · rest)

variable {doc child node value : Document} {step : Step} {steps rest : List Step}

/-- A document with a child at a step is an object with the key or a list with the position. -/
theorem child?_cases (h : doc.child? step = some child) :
    (∃ members name, doc = .object members ∧ step = .key name ∧
      Members.get? members name = some child) ∨
    ∃ items position, doc = .list items ∧ step = .index position ∧
      items[position]? = some child := by
  cases doc with
  | object members =>
    cases step with
    | key name => exact .inl ⟨members, name, rfl, rfl, h⟩
    | index => cases h
  | list items =>
    cases step with
    | key => cases h
    | index position => exact .inr ⟨items, position, rfl, rfl, h⟩
  | _ => cases h

theorem step?_of_child? (h : doc.child? step = some child) : doc.step? step = some child := by
  rcases child?_cases h with ⟨members, name, rfl, rfl, h⟩ | ⟨items, position, rfl, rfl, h⟩
  · exact h
  · exact h

/-- What stands at each step after one child was replaced. -/
theorem child?_withChild (h : doc.child? step = some child) (value : Document) (other : Step) :
    (doc.withChild step value).child? other
      = if other = step then some value else doc.child? other := by
  rcases child?_cases h with ⟨members, name, rfl, rfl, h⟩ | ⟨items, position, rfl, rfl, h⟩
  · cases other with
    | key key =>
      show Members.get? (Members.set members name value) key = _
      rw [Members.get?_set]
      by_cases hk : name = key
      · simp [hk]
      · simp [hk, Ne.symm hk, child?]
    | index => simp [child?, withChild]
  · cases other with
    | key => simp [child?, withChild, Step.position?]
    | index i =>
      obtain ⟨hlt, -⟩ := List.getElem?_eq_some_iff.mp h
      show (items.set position value)[i]? = _
      by_cases hi : i = position
      · simp [hi, hlt]
      · rw [List.getElem?_set_ne (Ne.symm hi), if_neg (by simpa using hi)]
        rfl

theorem isObject_withChild (doc : Document) (step : Step) (value : Document) :
    (doc.withChild step value).isObject = doc.isObject := by
  unfold withChild
  split
  · rfl
  · split <;> rfl
  · rfl

/-! ### Nodes -/

theorem node?_append (doc : Document) (p q : List Step) :
    doc.node? (p ++ q) = (doc.node? p).bind (node? · q) := by
  induction p generalizing doc with
  | nil => rfl
  | cons step rest ih =>
    rw [List.cons_append, node?, node?]
    cases doc.child? step with
    | none => rfl
    | some child => exact ih child

/-- The items of a list below a key stand at their positions. -/
theorem node?_item_iff {key : String} {position : Nat} :
    doc.node? [.key key, .index position] = some node ↔
      ((doc.getItems? key).getD [])[position]? = some node := by
  cases doc with
  | object members =>
    show (((Members.get? members key).bind fun child => child.node? [.index position]) = _ ↔
      ((((Members.get? members key).bind items?).getD [])[position]? = _))
    cases hvalue : Members.get? members key with
    | none => simp
    | some value => cases value <;> simp [node?, child?, items?]
  | _ => simp [node?, child?, getItems?, get?, members?]

/-- A node below a first step lies below the child at this step. -/
theorem node?_cons_eq_some (h : doc.node? (step :: rest) = some node) :
    ∃ child, doc.child? step = some child ∧ child.node? rest = some node :=
  Option.bind_eq_some_iff.mp h

/-- Where the steps lead to a node, they lead to it also when digits may stand for positions. -/
theorem getAt?_of_node? (h : doc.node? steps = some node) : doc.getAt? steps = some node := by
  induction steps generalizing doc with
  | nil => exact h
  | cons step rest ih =>
    obtain ⟨child, hchild, hnode⟩ := node?_cons_eq_some h
    rw [getAt?, step?_of_child? hchild, Option.bind_some, ih hnode]

theorem replaceAt_cons (h : doc.child? step = some child) (rest : List Step) (value : Document) :
    doc.replaceAt (step :: rest) value = doc.withChild step (child.replaceAt rest value) := by
  rw [replaceAt, step?_of_child? h]

/-- Overwriting below a node is overwriting the node. -/
theorem replaceAt_append (h : doc.node? steps = some node) (rest : List Step) (value : Document) :
    doc.replaceAt (steps ++ rest) value = doc.replaceAt steps (node.replaceAt rest value) := by
  induction steps generalizing doc with
  | nil =>
    cases Option.some.inj h
    rfl
  | cons step steps ih =>
    obtain ⟨child, hchild, hnode⟩ := node?_cons_eq_some h
    rw [List.cons_append, replaceAt_cons hchild, replaceAt_cons hchild, ih hnode]

/-- At the overwritten node and below it the new value is read. -/
theorem node?_replaceAt_append (h : doc.node? steps = some node) (value : Document)
    (rest : List Step) : (doc.replaceAt steps value).node? (steps ++ rest) = value.node? rest := by
  induction steps generalizing doc with
  | nil => rfl
  | cons step steps ih =>
    obtain ⟨child, hchild, hnode⟩ := node?_cons_eq_some h
    rw [replaceAt_cons hchild, List.cons_append, node?, child?_withChild hchild, if_pos rfl,
      Option.bind_some, ih hnode]

/-- Neither of the two lists of steps leads through the other. -/
def Apart (p q : List Step) : Prop := ¬ p <+: q ∧ ¬ q <+: p

instance (p q : List Step) : Decidable (Apart p q) := inferInstanceAs (Decidable (_ ∧ _))

theorem Apart.symm {p q : List Step} (h : Apart p q) : Apart q p := ⟨h.2, h.1⟩

theorem apart_cons_iff (step : Step) (p q : List Step) :
    Apart (step :: p) (step :: q) ↔ Apart p q := by
  unfold Apart
  rw [List.prefix_cons_inj, List.prefix_cons_inj]

/-- Beside the overwritten node everything is read as before. -/
theorem node?_replaceAt_of_apart {p q : List Step} (h : doc.node? p = some node)
    (hpq : Apart p q) (value : Document) : (doc.replaceAt p value).node? q = doc.node? q := by
  induction p generalizing doc q with
  | nil => exact absurd List.nil_prefix hpq.1
  | cons step p ih =>
    obtain ⟨child, hchild, hnode⟩ := node?_cons_eq_some h
    cases q with
    | nil => exact absurd List.nil_prefix hpq.2
    | cons other q =>
      rw [replaceAt_cons hchild, node?, node?, child?_withChild hchild]
      by_cases ho : other = step
      · subst ho
        rw [if_pos rfl, hchild, Option.bind_some, Option.bind_some]
        exact ih hnode ((apart_cons_iff _ _ _).mp hpq)
      · rw [if_neg ho]

/-- On the way to the overwritten node objects stay objects. -/
theorem isObject_node?_replaceAt {p q : List Step} (h : doc.node? p = some node) (hqp : q <+: p)
    (hvalue : value.isObject = node.isObject) :
    ((doc.replaceAt p value).node? q).map isObject = (doc.node? q).map isObject := by
  induction p generalizing doc q with
  | nil =>
    cases Option.some.inj h
    rw [List.prefix_nil.mp hqp]
    exact congrArg some hvalue
  | cons step p ih =>
    obtain ⟨child, hchild, hnode⟩ := node?_cons_eq_some h
    rw [replaceAt_cons hchild]
    cases q with
    | nil => exact congrArg some (isObject_withChild _ _ _)
    | cons other q =>
      obtain ⟨rfl, hrest⟩ := List.cons_prefix_cons.mp hqp
      rw [node?, node?, child?_withChild hchild, if_pos rfl, hchild, Option.bind_some,
        Option.bind_some]
      exact ih hnode hrest

/-! ### Setting one member -/

/-- The document with one member of the object at the steps set, where there is an object. -/
def setMember (doc : Document) (steps : List Step) (key : String) (value : Document) : Document :=
  match doc.node? steps with
  | some (.object members) => doc.replaceAt steps (.object (Members.set members key value))
  | _ => doc

variable {members : Members}

theorem setMember_of_object (h : doc.node? steps = some (.object members)) (key : String)
    (value : Document) :
    doc.setMember steps key value
      = doc.replaceAt steps (.object (Members.set members key value)) := by
  unfold setMember
  rw [h]

theorem node?_setMember_self (h : doc.node? steps = some (.object members)) (key : String)
    (value : Document) :
    (doc.setMember steps key value).node? (steps ++ [.key key]) = some value := by
  rw [setMember_of_object h, node?_replaceAt_append h]
  show (Members.get? (Members.set members key value) key).bind _ = _
  rw [Members.get?_set_self]
  rfl

/-- Beside the member that is set everything is read as before. -/
theorem node?_setMember_of_apart (h : doc.node? steps = some (.object members)) (key : String)
    (value : Document) {other : List Step} (hapart : Apart (steps ++ [.key key]) other) :
    (doc.setMember steps key value).node? other = doc.node? other := by
  rw [setMember_of_object h]
  by_cases hbelow : steps <+: other
  · -- Below the object, it is another of its members.
    obtain ⟨rest, rfl⟩ := hbelow
    rw [node?_replaceAt_append h, node?_append, h, Option.bind_some]
    cases rest with
    | nil => exact absurd (by simp) hapart.2
    | cons first rest =>
      have hfirst : first ≠ .key key := by
        rintro rfl
        exact hapart.1 ⟨rest, by simp⟩
      show (Document.child? _ first).bind _ = (Document.child? _ first).bind _
      congr 1
      cases first with
      | key name =>
        have hname : key ≠ name := fun heq => hfirst (by rw [heq])
        exact Members.get?_set_of_ne _ _ hname
      | index => rfl
  · refine node?_replaceAt_of_apart h ⟨hbelow, fun hpre => hapart.2 ?_⟩ _
    exact hpre.trans (List.prefix_append _ _)

/-- Objects that do not lie below the member that is set stay objects. -/
theorem isObject_node?_setMember (h : doc.node? steps = some (.object members)) (key : String)
    (value : Document) {other : List Step} (hother : ¬ steps ++ [.key key] <+: other) :
    ((doc.setMember steps key value).node? other).map isObject
      = (doc.node? other).map isObject := by
  by_cases hbefore : other <+: steps ++ [.key key]
  · rw [setMember_of_object h]
    rcases List.prefix_concat_iff.mp (by simpa using hbefore) with rfl | hpre
    · exact absurd List.prefix_rfl hother
    · exact isObject_node?_replaceAt h hpre rfl
  · rw [node?_setMember_of_apart h key value ⟨hother, hbefore⟩]

end ApiTools.Document
