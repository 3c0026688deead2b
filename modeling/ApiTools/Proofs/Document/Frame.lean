import ApiTools.Proofs.Document.Nodes
import ApiTools.Spec

/-!
# Documents that differ in named places only

`Document.SameBut altered R` holds of two documents that are equal, but for the values of the
members whose keys are `altered`; these values are related by `R`, and the keys and their order are
the same.  Nested, it says of two API descriptions that they differ in their operations at most
(`OperationsDiffer`).
-/

namespace ApiTools

/-! ### Methods -/

namespace Method

theorem name_injective {m n : Method} (h : m.name = n.name) : m = n := by
  cases m <;> cases n <;> first | rfl | exact absurd h (by decide)

theorem all_nodup : all.Nodup := by decide

theorem mem_all (method : Method) : method ∈ all := by
  cases method <;> decide

end Method

namespace Document

/-! ### Lists and objects below a key -/

theorem getItems?_object {ms : Members} {key : String} {items : List Document}
    (h : Members.get? ms key = some (.list items)) :
    (Document.object ms).getItems? key = some items := by
  show (Members.get? ms key).bind Document.items? = some items
  rw [h]
  rfl

/-- A document has a list below a key only where it is an object with this list. -/
theorem getItems?_cases (doc : Document) (key : String) :
    doc.getItems? key = none ∨ ∃ ms items, doc = .object ms ∧
      Members.get? ms key = some (.list items) := by
  cases h : doc.getItems? key with
  | none => exact .inl rfl
  | some items =>
    refine .inr ?_
    obtain ⟨v, hv, hitems⟩ := Option.bind_eq_some_iff.mp h
    obtain ⟨ms, hms, hget⟩ := Option.bind_eq_some_iff.mp hv
    cases doc <;> cases hms
    cases v <;> cases hitems
    exact ⟨ms, items, rfl, hget⟩

theorem getMembers?_object {ms members : Members} {key : String}
    (h : Members.get? ms key = some (.object members)) :
    (Document.object ms).getMembers? key = some members := by
  show (Members.get? ms key).bind Document.members? = some members
  rw [h]
  rfl

/-- A document has an object below a key only where it is an object with this member. -/
theorem getMembers?_cases (doc : Document) (key : String) :
    doc.getMembers? key = none ∨ ∃ ms members, doc = .object ms ∧
      Members.get? ms key = some (.object members) := by
  cases h : doc.getMembers? key with
  | none => exact .inl rfl
  | some members =>
    refine .inr ?_
    obtain ⟨v, hv, hmembers⟩ := Option.bind_eq_some_iff.mp h
    obtain ⟨ms, hms, hget⟩ := Option.bind_eq_some_iff.mp hv
    cases doc <;> cases hms
    cases v <;> cases hmembers
    exact ⟨ms, members, rfl, hget⟩

/-- Documents with the same value at a key have the same text, list or object there. -/
theorem getText?_congr {doc other : Document} {key : String} (h : doc.get? key = other.get? key) :
    doc.getText? key = other.getText? key := congrArg (Option.bind · text?) h

theorem getItems?_congr {doc other : Document} {key : String} (h : doc.get? key = other.get? key) :
    doc.getItems? key = other.getItems? key := congrArg (Option.bind · items?) h

theorem getMembers?_congr {doc other : Document} {key : String}
    (h : doc.get? key = other.get? key) : doc.getMembers? key = other.getMembers? key :=
  congrArg (Option.bind · members?) h

/-! ### Documents that differ at some keys -/

/-- Equal, or two objects with the same keys in the same order, whose values are equal except at
altered keys, where they are related. -/
def SameBut (altered : String → Prop) (R : Document → Document → Prop) (before after : Document) :
    Prop :=
  before = after ∨ ∃ ms ns, before = .object ms ∧ after = .object ns ∧
    Members.Related (fun key v w => v = w ∨ altered key ∧ R v w) ms ns

/-- The key of a method in a path item. -/
def IsMethodKey (key : String) : Prop := ∃ method : Method, key = method.name

/-- The same path items, but for their operations, which are related. -/
def ItemsDiffer (R : Document → Document → Prop) : Document → Document → Prop :=
  SameBut (fun _ => True) (SameBut IsMethodKey R)

/-- The same API descriptions, but for their operations, which are related. -/
def OperationsDiffer (R : Document → Document → Prop) : Document → Document → Prop :=
  SameBut (· = "paths") (ItemsDiffer R)

namespace SameBut

variable {altered : String → Prop} {R S T : Document → Document → Prop} {a b c : Document}

theorem refl (doc : Document) : SameBut altered R doc doc := .inl rfl

theorem object {ms ns : Members}
    (h : Members.Related (fun key v w => v = w ∨ altered key ∧ R v w) ms ns) :
    SameBut altered R (.object ms) (.object ns) := .inr ⟨ms, ns, rfl, rfl, h⟩

theorem mono {altered' : String → Prop} (hkeys : ∀ key, altered key → altered' key)
    (hRS : ∀ v w, R v w → S v w) (h : SameBut altered R a b) : SameBut altered' S a b := by
  rcases h with rfl | ⟨ms, ns, rfl, rfl, h⟩
  · exact refl a
  · exact object (h.mono fun key v w => Or.imp_right (And.imp (hkeys key) (hRS v w)))

/-- The members of two such objects are related in any case. -/
theorem related {ms ns : Members} (h : SameBut altered R (.object ms) (.object ns)) :
    Members.Related (fun key v w => v = w ∨ altered key ∧ R v w) ms ns := by
  rcases h with heq | ⟨_, _, hms, hns, h⟩
  · cases heq
    exact .refl (fun _ _ => .inl rfl) ms
  · cases hms
    cases hns
    exact h

theorem trans (hT : ∀ u v w, R u v → R v w → R u w) (h : SameBut altered R a b)
    (h' : SameBut altered R b c) : SameBut altered R a c := by
  rcases h with rfl | ⟨ms, ns, rfl, rfl, h⟩
  · exact h'
  rcases h' with rfl | ⟨ns', os, hns, rfl, h'⟩
  · exact object h
  cases hns
  refine object (h.trans ?_ h')
  rintro key u v w (rfl | ⟨hk, huv⟩) (rfl | ⟨hk', hvw⟩)
  · exact .inl rfl
  · exact .inr ⟨hk', hvw⟩
  · exact .inr ⟨hk, huv⟩
  · exact .inr ⟨hk, hT _ _ _ huv hvw⟩

/-- Two changes at different keys, one after the other. -/
theorem trans_of_disjoint {altered' : String → Prop} (hkeys : ∀ key, altered key → ¬ altered' key)
    (h : SameBut altered R a b) (h' : SameBut altered' R b c) :
    SameBut (fun key => altered key ∨ altered' key) R a c := by
  rcases h with rfl | ⟨ms, ns, rfl, rfl, h⟩
  · exact h'.mono (fun _ => .inr) fun _ _ => id
  rcases h' with rfl | ⟨ns', os, hns, rfl, h'⟩
  · exact (object h).mono (fun _ => .inl) fun _ _ => id
  cases hns
  refine object (h.trans ?_ h')
  rintro key u v w (rfl | ⟨hk, huv⟩) (rfl | ⟨hk', hvw⟩)
  · exact .inl rfl
  · exact .inr ⟨.inr hk', hvw⟩
  · exact .inr ⟨.inl hk, huv⟩
  · exact absurd hk' (hkeys key hk)

/-- Members taken out by their keys on both sides. -/
theorem filter {ms ns : Members} (h : SameBut altered R (.object ms) (.object ns))
    (p : String → Bool) :
    SameBut altered R (.object (ms.filter fun entry => p entry.1))
      (.object (ns.filter fun entry => p entry.1)) :=
  object (h.related.filter p)

/-- A key that is not altered is read with the same value in both. -/
theorem get?_eq (h : SameBut altered R a b) {key : String} (hk : ¬ altered key) :
    a.get? key = b.get? key := by
  rcases h with rfl | ⟨ms, ns, rfl, rfl, h⟩
  · rfl
  have hrel := h.get? key
  show Members.get? ms key = Members.get? ns key
  generalize Members.get? ms key = v?, Members.get? ns key = w? at hrel ⊢
  cases hrel with
  | some hvw =>
    rcases hvw with rfl | ⟨hk', -⟩
    · rfl
    · exact absurd hk' hk
  | none => rfl

/-- An altered key is read in both or in neither, with related values. -/
theorem get?_rel (h : SameBut altered R a b) (key : String) :
    Option.Rel (fun v w => v = w ∨ R v w) (a.get? key) (b.get? key) := by
  rcases h with rfl | ⟨ms, ns, rfl, rfl, h⟩
  · cases a.get? key
    · exact .none
    · exact .some (.inl rfl)
  · have hrel := h.get? key
    show Option.Rel _ (Members.get? ms key) (Members.get? ns key)
    generalize Members.get? ms key = v?, Members.get? ns key = w? at hrel ⊢
    cases hrel with
    | some hvw => exact .some (hvw.imp_right And.right)
    | none => exact .none

/-- Setting one altered member to a related value. -/
theorem set {ms : Members} {key : String} {v w : Document} (hk : altered key)
    (hv : Members.get? ms key = some v) (hvw : R v w) :
    SameBut altered R (.object ms) (.object (Members.set ms key w)) :=
  object (.set (fun _ _ => .inl rfl) hv (.inr ⟨hk, hvw⟩))

/-- Replacing one altered member by a related value. -/
theorem withChild {key : String} {v w : Document} (hk : altered key)
    (hv : a.child? (.key key) = some v) (hvw : R v w) :
    SameBut altered R a (a.withChild (.key key) w) := by
  rcases child?_cases hv with ⟨members, name, rfl, hname, hget⟩ | ⟨_, _, _, hname, _⟩
  · cases hname
    exact .set hk hget hvw
  · cases hname

/-- What stands at a key in the one stands there in the other, up to the relation. -/
theorem child? (h : SameBut altered R a b) {key : String} {v : Document}
    (hv : a.child? (.key key) = some v) :
    ∃ w, b.child? (.key key) = some w ∧ (v = w ∨ R v w) := by
  rcases h with rfl | ⟨ms, ns, rfl, rfl, h⟩
  · exact ⟨v, hv, .inl rfl⟩
  · obtain ⟨w, hw, hvw⟩ := h.get?_some hv
    exact ⟨w, hw, hvw.imp_right And.right⟩

/-- Equal documents are such documents. -/
theorem of_or (h : a = b ∨ SameBut altered R a b) : SameBut altered R a b := by
  rcases h with rfl | h
  · exact refl a
  · exact h

end SameBut

theorem OperationsDiffer.trans {R : Document → Document → Prop}
    (hR : ∀ u v w, R u v → R v w → R u w) {a b c : Document} (h : OperationsDiffer R a b)
    (h' : OperationsDiffer R b c) : OperationsDiffer R a c := by
  have hitem : ∀ u v w, SameBut IsMethodKey R u v → SameBut IsMethodKey R v w →
      SameBut IsMethodKey R u w := fun _ _ _ => SameBut.trans hR
  exact SameBut.trans (fun _ _ _ => SameBut.trans hitem) h h'

end Document

end ApiTools
