import ApiTools.Proofs.Document.Keys
import ApiTools.Proofs.Document.Nodes

/-!
# Removing several nodes

`Document.without gone` is the document with the nodes left out whose steps are `gone`, in one pass
over the document as it stands.  Removing the nodes one after another comes to the same where all
lie equally deep and each is removed after those behind it (`removeAll_eq_without`): steps that lead
to a node lead to it still when nodes behind it are gone.
-/

namespace ApiTools

/-! ### The order of steps -/

namespace Step

theorem le_refl (a : Step) : a.le a = true := by
  cases a <;> simp [le]

theorem le_total (a b : Step) : (a.le b || b.le a) = true := by
  cases a <;> cases b <;> simp [le, Nat.le_total, String.le_total]

theorem le_trans {a b c : Step} (hab : a.le b = true) (hbc : b.le c = true) : a.le c = true := by
  cases a <;> cases b <;> cases c <;> simp_all [le]
  · exact String.le_trans hab hbc
  · exact Nat.le_trans hab hbc

theorem le_antisymm {a b : Step} (hab : a.le b = true) (hba : b.le a = true) : a = b := by
  cases a <;> cases b <;> simp_all [le]
  · exact String.le_antisymm hab hba
  · exact Nat.le_antisymm hab hba

theorem listLe_cons_self (a : Step) (as bs : List Step) :
    listLe (a :: as) (a :: bs) = listLe as bs := by
  rw [listLe, if_pos rfl]

theorem le_of_listLe_cons {a b : Step} {as bs : List Step}
    (h : listLe (a :: as) (b :: bs) = true) : a.le b = true := by
  rw [listLe] at h
  split_ifs at h with heq
  · exact heq ▸ le_refl a
  · exact h

theorem listLe_total (as bs : List Step) : (listLe as bs || listLe bs as) = true := by
  induction as generalizing bs with
  | nil => rfl
  | cons a as ih =>
    cases bs with
    | nil => rfl
    | cons b bs =>
      by_cases h : a = b
      · subst h
        rw [listLe_cons_self, listLe_cons_self]
        exact ih bs
      · rw [listLe, listLe, if_neg h, if_neg (Ne.symm h)]
        exact le_total a b

theorem listLe_trans (as bs cs : List Step) (hab : listLe as bs = true)
    (hbc : listLe bs cs = true) : listLe as cs = true := by
  induction as generalizing bs cs with
  | nil => rfl
  | cons a as ih =>
    cases bs with
    | nil => cases hab
    | cons b bs =>
      cases cs with
      | nil => cases hbc
      | cons c cs =>
        have hac : a.le c = true := le_trans (le_of_listLe_cons hab) (le_of_listLe_cons hbc)
        rw [listLe]
        split_ifs with h
        · -- Then the step between them is the same one, too.
          subst h
          obtain rfl : a = b := le_antisymm (le_of_listLe_cons hab) (le_of_listLe_cons hbc)
          rw [listLe_cons_self] at hab hbc
          exact ih bs cs hab hbc
        · exact hac

/-! ### Places -/

/-- The places below a step, as seen from there. -/
def beneath (step : Step) (gone : List Step → Bool) : List Step → Bool :=
  fun steps => gone (step :: steps)

/-- The places and one more. -/
def adding (gone : List Step → Bool) (steps : List Step) : List Step → Bool :=
  fun other => gone other || decide (other = steps)

variable {gone : List Step → Bool} {step next : Step} {steps rest : List Step}

theorem beneath_adding_self (gone : List Step → Bool) (step : Step) (rest : List Step) :
    step.beneath (adding gone (step :: rest)) = adding (step.beneath gone) rest := by
  funext other
  simp [beneath, adding]

theorem beneath_adding_of_ne (gone : List Step → Bool) {step other : Step} (h : step ≠ other)
    (rest : List Step) : step.beneath (adding gone (other :: rest)) = step.beneath gone := by
  funext steps
  simp [beneath, adding, h]

theorem adding_apply_of_ne (gone : List Step → Bool) {other : List Step} (h : other ≠ steps) :
    adding gone steps other = gone other := by
  simp [adding, h]

/-- The places all lie as deep as the steps, and come later in their order. -/
structure Behind (steps : List Step) (gone : List Step → Bool) : Prop where
  length : ∀ other, gone other = true → other.length = steps.length
  le : ∀ other, gone other = true → listLe steps other = true
  self : gone steps = false

namespace Behind

theorem beneath (h : Behind (step :: rest) gone) : Behind rest (step.beneath gone) where
  length other hother := Nat.succ.inj (h.length (step :: other) hother)
  le other hother := listLe_cons_self step rest other ▸ h.le (step :: other) hother
  self := h.self

/-- No child of the root is gone where the steps lead further down. -/
theorem above (h : Behind (step :: next :: rest) gone) (other : Step) : gone [other] = false := by
  cases hother : gone [other] with
  | false => rfl
  | true =>
    have hlength := h.length _ hother
    simp at hlength

/-- No item up to the one at the position is gone. -/
theorem position {i : Nat} (h : Behind (.index i :: rest) gone) {j : Nat} (hj : j ≤ i) :
    gone [.index j] = false := by
  cases hother : gone [.index j] with
  | false => rfl
  | true =>
    have hlength : 1 = rest.length + 1 := h.length _ hother
    obtain rfl : rest = [] := List.eq_nil_of_length_eq_zero (by omega)
    have hle : i ≤ j := of_decide_eq_true (le_of_listLe_cons (h.le _ hother))
    obtain rfl : j = i := Nat.le_antisymm hj hle
    rw [← hother, h.self]

end Behind

end Step

namespace Document

open Step

/-! ### Nodes left out -/

mutual
/-- The document without the nodes whose steps are gone.  What stays keeps its order. -/
def without (gone : List Step → Bool) : Document → Document
  | .list items => .list (withoutItems gone 0 items)
  | .object members => .object (withoutMembers gone members)
  | scalar => scalar

/-- The items from a position on without the nodes whose steps are gone. -/
def withoutItems (gone : List Step → Bool) (position : Nat) : List Document → List Document
  | [] => []
  | item :: rest =>
    if gone [.index position] then withoutItems gone (position + 1) rest
    else without ((index position).beneath gone) item :: withoutItems gone (position + 1) rest

/-- The members without the nodes whose steps are gone. -/
def withoutMembers (gone : List Step → Bool) : List (String × Document) → List (String × Document)
  | [] => []
  | (name, value) :: rest =>
    if gone [.key name] then withoutMembers gone rest
    else (name, without ((key name).beneath gone) value) :: withoutMembers gone rest
end

mutual
/-- Where nothing is gone the document stays as it is. -/
theorem without_none : (doc : Document) → doc.without (fun _ => false) = doc
  | .list items => congrArg Document.list (withoutItems_none 0 items)
  | .object members => congrArg Document.object (withoutMembers_none members)
  | .null | .bool _ | .number _ | .text _ => rfl

theorem withoutItems_none (position : Nat) : (items : List Document) →
    withoutItems (fun _ => false) position items = items
  | [] => rfl
  | item :: rest =>
    congrArg₂ List.cons (without_none item) (withoutItems_none (position + 1) rest)

theorem withoutMembers_none : (members : Members) →
    withoutMembers (fun _ => false) members = members
  | [] => rfl
  | (name, value) :: rest =>
    congrArg₂ List.cons (congrArg (Prod.mk name) (without_none value)) (withoutMembers_none rest)
end

variable {gone : List Step → Bool} {doc node child : Document} {step next : Step}
  {rest : List Step}

/-! ### Members -/

section Members

variable {members : Members} {name : String}

theorem get?_withoutMembers (gone : List Step → Bool) (members : Members) (name : String) :
    Members.get? (withoutMembers gone members) name
      = if gone [.key name] then none
        else (Members.get? members name).map (without ((key name).beneath gone)) := by
  induction members with
  | nil => simp [withoutMembers]
  | cons entry others ih =>
    obtain ⟨k, value⟩ := entry
    rw [withoutMembers, Members.get?_cons]
    by_cases hk : k = name
    · subst hk
      by_cases hgone : gone [.key k]
      · rw [if_pos hgone, ih, if_pos hgone, if_pos hgone]
      · rw [if_neg hgone, Members.get?_cons, if_pos rfl, if_pos rfl, if_neg hgone, Option.map_some]
    · by_cases hgone : gone [.key k]
      · rw [if_pos hgone, ih, if_neg hk]
      · rw [if_neg hgone, Members.get?_cons, if_neg hk, if_neg hk, ih]

/-- Taking out one more member. -/
theorem erase_withoutMembers (gone : List Step → Bool) (members : Members) (name : String) :
    Members.erase (withoutMembers gone members) name
      = withoutMembers (adding gone [.key name]) members := by
  induction members with
  | nil => rfl
  | cons entry others ih =>
    obtain ⟨k, value⟩ := entry
    rw [withoutMembers, withoutMembers]
    by_cases hk : k = name
    · subst hk
      have hadded : adding gone [.key k] [.key k] = true := by simp [adding]
      rw [if_pos hadded, ← ih]
      split_ifs
      · rfl
      · rw [Members.erase, List.filter_cons_of_neg (by simp)]
        rfl
    · have hne : key k ≠ key name := fun h => hk (key.inj h)
      rw [adding_apply_of_ne gone (by simp [hk]), beneath_adding_of_ne gone hne, ← ih]
      split_ifs
      · rfl
      · rw [Members.erase, List.filter_cons_of_pos (by simp [hk])]
        rfl

/-- A place below a key that is not there is not seen. -/
theorem withoutMembers_adding_of_not_mem (h : name ∉ Members.keys members) :
    withoutMembers (adding gone (.key name :: rest)) members = withoutMembers gone members := by
  induction members with
  | nil => rfl
  | cons entry others ih =>
    obtain ⟨k, value⟩ := entry
    rw [Members.keys, List.map_cons, List.mem_cons, not_or] at h
    have hne : key k ≠ key name := fun heq => h.1 (key.inj heq).symm
    rw [withoutMembers, withoutMembers, ih h.2, beneath_adding_of_ne gone hne,
      adding_apply_of_ne gone (by simp [Ne.symm h.1])]

/-- Leaving out one more node below a member. -/
theorem set_withoutMembers (hkeys : (Members.keys members).Nodup)
    (hget : Members.get? members name = some child) (habove : ∀ step, gone [step] = false) :
    Members.set (withoutMembers gone members) name
        (child.without (adding ((key name).beneath gone) (next :: rest)))
      = withoutMembers (adding gone (.key name :: next :: rest)) members := by
  induction members with
  | nil => cases hget
  | cons entry others ih =>
    obtain ⟨k, value⟩ := entry
    rw [Members.keys, List.map_cons, List.nodup_cons] at hkeys
    rw [Members.get?_cons] at hget
    rw [withoutMembers, withoutMembers, adding_apply_of_ne gone (by simp), habove,
      if_neg Bool.false_ne_true, if_neg Bool.false_ne_true, Members.set]
    by_cases hk : k = name
    · subst hk
      rw [if_pos rfl, Option.some.injEq] at hget
      rw [if_pos rfl, hget, beneath_adding_self, withoutMembers_adding_of_not_mem hkeys.1]
    · rw [if_neg hk] at hget
      have hne : key k ≠ key name := fun h => hk (key.inj h)
      rw [if_neg hk, ih hkeys.2 hget, beneath_adding_of_ne gone hne]

end Members

/-! ### Items -/

section Items

variable {items : List Document} {position offset : Nat}

theorem getElem?_withoutItems (h : ∀ i ≤ offset, gone [.index (position + i)] = false) :
    (withoutItems gone position items)[offset]?
      = items[offset]?.map (without ((index (position + offset)).beneath gone)) := by
  induction items generalizing position offset with
  | nil => rfl
  | cons item others ih =>
    have hfirst : gone [.index position] = false := h 0 (Nat.zero_le _)
    rw [withoutItems, hfirst, if_neg Bool.false_ne_true]
    cases offset with
    | zero => rfl
    | succ offset =>
      rw [List.getElem?_cons_succ, List.getElem?_cons_succ, ih, Nat.add_right_comm]
      · rfl
      · intro i hi
        rw [Nat.add_right_comm]
        exact h (i + 1) (Nat.succ_le_succ hi)

/-- A place before the first position is not seen. -/
theorem withoutItems_adding_of_lt {before : Nat} (h : before < position) :
    withoutItems (adding gone (.index before :: rest)) position items
      = withoutItems gone position items := by
  induction items generalizing position with
  | nil => rfl
  | cons item others ih =>
    have hne : index position ≠ index before := fun heq => h.ne' (index.inj heq)
    rw [withoutItems, withoutItems, ih (Nat.lt_succ_of_lt h), beneath_adding_of_ne gone hne,
      adding_apply_of_ne gone (by simp [h.ne'])]

/-- Taking out one more item, before those that are gone. -/
theorem eraseIdx_withoutItems (h : ∀ i ≤ offset, gone [.index (position + i)] = false) :
    (withoutItems gone position items).eraseIdx offset
      = withoutItems (adding gone [.index (position + offset)]) position items := by
  induction items generalizing position offset with
  | nil => rfl
  | cons item others ih =>
    have hfirst : gone [.index position] = false := h 0 (Nat.zero_le _)
    rw [withoutItems, withoutItems, hfirst, if_neg Bool.false_ne_true]
    cases offset with
    | zero =>
      have hadded : adding gone [.index position] [.index position] = true := by simp [adding]
      rw [Nat.add_zero position, if_pos hadded, withoutItems_adding_of_lt (Nat.lt_succ_self _)]
      rfl
    | succ offset =>
      have hne : index position ≠ index (position + (offset + 1)) := by simp
      have hrest : ∀ i ≤ offset, gone [.index (position + 1 + i)] = false := by
        intro i hi
        rw [Nat.add_right_comm]
        exact h (i + 1) (Nat.succ_le_succ hi)
      rw [adding_apply_of_ne gone (by simp), hfirst, if_neg Bool.false_ne_true,
        List.eraseIdx_cons_succ, ih hrest, beneath_adding_of_ne gone hne,
        Nat.add_right_comm position 1 offset]
      rfl

/-- Leaving out one more node below an item. -/
theorem set_withoutItems (hget : items[offset]? = some child)
    (habove : ∀ step, gone [step] = false) :
    (withoutItems gone position items).set offset
        (child.without (adding ((index (position + offset)).beneath gone) (next :: rest)))
      = withoutItems (adding gone (.index (position + offset) :: next :: rest)) position items := by
  induction items generalizing position offset with
  | nil => cases hget
  | cons item others ih =>
    rw [withoutItems, withoutItems, adding_apply_of_ne gone (by simp), habove,
      if_neg Bool.false_ne_true, if_neg Bool.false_ne_true]
    cases offset with
    | zero =>
      obtain rfl : item = child := Option.some.inj hget
      rw [Nat.add_zero position, beneath_adding_self, withoutItems_adding_of_lt (Nat.lt_succ_self _),
        List.set_cons_zero]
    | succ offset =>
      have hne : index position ≠ index (position + (offset + 1)) := by simp
      have hrest := @ih (position + 1) offset hget
      rw [Nat.add_right_comm position 1 offset] at hrest
      rw [List.set_cons_succ, beneath_adding_of_ne gone hne, ← Nat.add_assoc, hrest]

end Items

/-! ### Removing one after another -/

/-- A child that is not gone stands behind what is gone before it. -/
theorem removeChild?_without (hchild : doc.child? step = some child)
    (hgone : Behind [step] gone) :
    (doc.without gone).removeChild? step = some (doc.without (adding gone [step])) := by
  rcases child?_cases hchild with ⟨members, name, rfl, rfl, hget⟩ | ⟨items, i, rfl, rfl, hget⟩
  · have hhas : Members.has (withoutMembers gone members) name = true := by
      rw [Members.has, get?_withoutMembers, hgone.self, hget]
      rfl
    show removeChild? (.object (withoutMembers gone members)) (.key name) = _
    rw [removeChild?, keyText, if_pos hhas, erase_withoutMembers]
    rfl
  · have hstays : ∀ j ≤ i, gone [.index (0 + j)] = false := fun j hj => by
      rw [Nat.zero_add]
      exact hgone.position hj
    have hlt : i < (withoutItems gone 0 items).length := by
      have hthere : (withoutItems gone 0 items)[i]? = _ := getElem?_withoutItems hstays
      rw [hget, Option.map_some, List.getElem?_eq_some_iff] at hthere
      exact hthere.1
    show (if i < (withoutItems gone 0 items).length then _ else _) = _
    rw [if_pos hlt, eraseIdx_withoutItems hstays, Nat.zero_add]
    rfl

/-- Where no child of the root is gone, the child at a step is there without what is gone below. -/
theorem step?_without (hchild : doc.child? step = some child)
    (habove : ∀ other, gone [other] = false) :
    (doc.without gone).step? step = some (child.without (step.beneath gone)) := by
  rcases child?_cases hchild with ⟨members, name, rfl, rfl, hget⟩ | ⟨items, i, rfl, rfl, hget⟩
  · show Members.get? (withoutMembers gone members) name = _
    rw [get?_withoutMembers, habove, hget]
    rfl
  · show (withoutItems gone 0 items)[i]? = _
    rw [getElem?_withoutItems fun j _ => habove _, hget, Option.map_some, Nat.zero_add]

theorem withChild_without (hchild : doc.child? step = some child) (hkeys : doc.HasDistinctKeys)
    (habove : ∀ other, gone [other] = false) :
    (doc.without gone).withChild step (child.without (adding (step.beneath gone) (next :: rest)))
      = doc.without (adding gone (step :: next :: rest)) := by
  rcases child?_cases hchild with ⟨members, name, rfl, rfl, hget⟩ | ⟨items, i, rfl, rfl, hget⟩
  · have hdistinct := (hasDistinctKeys_object.mp hkeys).1
    exact congrArg Document.object (set_withoutMembers hdistinct hget habove)
  · have hset : (withoutItems gone 0 items).set i
          (child.without (adding ((Step.index (0 + i)).beneath gone) (next :: rest)))
        = withoutItems (adding gone (.index (0 + i) :: next :: rest)) 0 items :=
      set_withoutItems hget habove
    rw [Nat.zero_add] at hset
    exact congrArg Document.list hset

/-- Where only nodes behind it are gone, removing a node leaves it out as well. -/
theorem removeAt?_without {steps : List Step} (hnode : doc.node? steps = some node)
    (hroot : steps ≠ []) (hkeys : doc.HasDistinctKeys) (hgone : Behind steps gone) :
    (doc.without gone).removeAt? steps = some (doc.without (adding gone steps)) := by
  induction steps generalizing doc gone with
  | nil => exact absurd rfl hroot
  | cons step rest ih =>
    obtain ⟨child, hchild, hrest⟩ := node?_cons_eq_some hnode
    cases rest with
    | nil =>
      rw [removeAt?]
      exact removeChild?_without hchild hgone
    | cons next rest =>
      have hbelow : child.HasDistinctKeys := hkeys.of_child hchild
      rw [removeAt?, step?_without hchild hgone.above, Option.bind_some,
        ih hrest (List.cons_ne_nil _ _) hbelow hgone.beneath, Option.map_some,
        withChild_without hchild hkeys hgone.above]

/-- Nodes that lie equally deep, each removed after those that come later in the order of steps, are
left out together. -/
theorem removeAll_eq_without {places : List (List Step)} {depth : Nat} (hdepth : depth ≠ 0)
    (hkeys : doc.HasDistinctKeys)
    (hplaces : ∀ steps ∈ places, steps.length = depth ∧ (doc.node? steps).isSome)
    (hsorted : places.Pairwise fun steps others => listLe steps others = true)
    (hnodup : places.Nodup) :
    places.foldr (fun steps doc => (doc.removeAt? steps).getD doc) doc
      = doc.without fun steps => decide (steps ∈ places) := by
  induction places with
  | nil =>
    simp only [List.foldr_nil, List.not_mem_nil, decide_false]
    exact (without_none doc).symm
  | cons steps others ih =>
    rw [List.pairwise_cons] at hsorted
    rw [List.nodup_cons] at hnodup
    obtain ⟨⟨hlength, hthere⟩, hothers⟩ := List.forall_mem_cons.mp hplaces
    obtain ⟨node, hnode⟩ := Option.isSome_iff_exists.mp hthere
    -- The others come first and lie behind this place, so that it is still there afterwards.
    have hgone : Behind steps fun other => decide (other ∈ others) := by
      refine ⟨fun other hother => ?_, fun other hother => ?_, decide_eq_false hnodup.1⟩
      · rw [hlength, (hothers other (of_decide_eq_true hother)).1]
      · exact hsorted.1 other (of_decide_eq_true hother)
    have hroot : steps ≠ [] := by
      rintro rfl
      exact hdepth hlength.symm
    have hadding : adding (fun other => decide (other ∈ others)) steps
        = fun other => decide (other ∈ steps :: others) := by
      funext other
      simp [adding, Bool.or_comm]
    rw [List.foldr_cons, ih hothers hsorted.2 hnodup.2, removeAt?_without hnode hroot hkeys hgone,
      Option.getD_some, hadding]

end Document

end ApiTools
