import ApiTools.Proofs.Document.Nodes
import ApiTools.Proofs.Document.Writing
import ApiTools.Proofs.Spec.Read

/-!
# What a write changes and creates

A write goes from container to container.  What happens at one of them is said once: `Put` is the
container with one child set, and `exists_put` splits a write that succeeds into this and the write
of the rest in the node that is `entered`.  From it come, by induction on the steps, what is read
afterwards (`getAt?_setAt`), what is kept (`node?_setAt_of_apart`, `grown_setAt`) and that a second
write changes nothing (`setAt_setAt`); together this is `setAt_reads_back`.

The steps of a write may name a position by digits or a key by a number.  `ownSteps` are the steps
as the containers on the way take them, so they are the address of the node that is written.
-/

namespace ApiTools

/-! ### Steps that can be taken -/

namespace Step

/-- If the step is a key of digits only, these denote a position that can be written. -/
def Fits : Step → Prop
  | key name => name.toList.all isDigitChar = true → digitsValue name.toList ≤ maxPosition
  | index _ => True

instance : (step : Step) → Decidable step.Fits
  | key name => inferInstanceAs (Decidable (name.toList.all isDigitChar = true → _))
  | index _ => isTrue trivial

theorem exists_position?_of_fits {step : Step} (hfits : step.Fits)
    (hnumeric : step.isNumeric = true) : ∃ position, step.position? = some position := by
  cases step with
  | index position => exact ⟨position, rfl⟩
  | key name =>
    obtain ⟨hne, hdigits⟩ := Bool.and_eq_true_iff.mp hnumeric
    have hposition : positionOfDigits? name.toList = some (digitsValue name.toList) := by
      rw [positionOfDigits?, if_pos]
      simp [hne, hdigits, hfits hdigits]
    refine ⟨digitsValue name.toList, ?_⟩
    show positionOfKey? name = _
    unfold positionOfKey?
    split
    · rename_i digits hplus
      rw [hplus, List.all_cons] at hdigits
      cases hdigits
    · exact hposition

end Step

namespace Document

variable {doc after node child value : Document} {step own : Step}
  {steps rest before q : List Step} {items : List Document}

/-! ### Lists that are filled up -/

section Lists

variable {position : Nat} {filler : Document}

theorem length_set_padTo (items : List Document) (position : Nat) (filler child : Document) :
    ((padTo items position filler).set position child).length
      = max items.length (position + 1) := by
  rw [List.length_set, padTo, List.length_append, List.length_replicate]
  omega

theorem getElem?_set_padTo_self (items : List Document) (position : Nat)
    (filler child : Document) :
    ((padTo items position filler).set position child)[position]? = some child := by
  have hlength := length_set_padTo items position filler child
  rw [List.length_set] at hlength
  rw [List.getElem?_set_self (by omega)]

theorem getElem?_set_padTo_of_ne {i : Nat} (hi : i < items.length) (hne : i ≠ position) :
    ((padTo items position filler).set position child)[i]? = items[i]? := by
  rw [List.getElem?_set_ne hne.symm, padTo, List.getElem?_append_left hi]

end Lists

/-! ### One container -/

/-- What a write takes for a child that is not there yet. -/
def missing : Document → Document
  | list _ => object []
  | _ => null

/-- The node at a step in which the rest of the steps is written: the child that stands there or
else a new container.  Where no steps are left the node is overwritten, whatever it is. -/
def entered (doc : Document) (own : Step) : List Step → Document
  | [] => null
  | next :: _ => ((doc.child? own).getD doc.missing).orFresh next

/-- The container after a write in which the step has led to a child: a member of an object, or an
item of a list, which may have been filled up. -/
inductive Put (step own : Step) (child : Document) : Document → Document → Prop
  | member {members : Members} (hown : own = .key step.keyText) :
    Put step own child (.object members) (.object (Members.set members step.keyText child))
  | item {items : List Document} {position : Nat} {filler : Document}
    (hnumeric : step.isNumeric = true) (hposition : step.position?.getD items.length = position)
    (hown : own = .index position) :
    Put step own child (.list items) (.list ((padTo items position filler).set position child))

theorem setAt_object (members : Members) (step : Step) (rest : List Step) (value : Document) :
    (object members).setAt (step :: rest) value
      = (object (Members.set members step.keyText
          (((object members).entered (.key step.keyText) rest).setAt rest value).1),
        (((object members).entered (.key step.keyText) rest).setAt rest value).2) := by
  cases rest <;> rfl

theorem setAt_list (hnumeric : step.isNumeric = true) (items : List Document) (rest : List Step)
    (value : Document) :
    ∃ filler, (list items).setAt (step :: rest) value
      = (list ((padTo items (step.position?.getD items.length) filler).set
          (step.position?.getD items.length)
          (((list items).entered (.index (step.position?.getD items.length)) rest).setAt
            rest value).1),
        (((list items).entered (.index (step.position?.getD items.length)) rest).setAt
          rest value).2) := by
  cases rest with
  | nil =>
    refine ⟨null, ?_⟩
    show (list items).setChild step value = _
    rw [setChild, if_pos hnumeric]
    rfl
  | cons next rest =>
    refine ⟨object [], ?_⟩
    rw [setAt, if_pos hnumeric]
    simp only [getElem?_padTo, Option.getD_some]
    rfl

/-- A write that succeeds puts into the container what the write of the rest makes of the node that
it enters. -/
theorem exists_put (h : doc.setAt (step :: rest) value = (after, none)) :
    ∃ own child, Put step own child doc after ∧
      (doc.entered own rest).setAt rest value = (child, none) := by
  cases doc with
  | object members =>
    rw [setAt_object] at h
    obtain ⟨rfl, herror⟩ := Prod.mk.inj h
    exact ⟨_, _, .member rfl, Prod.ext rfl herror⟩
  | list items =>
    by_cases hnumeric : step.isNumeric = true
    · obtain ⟨filler, hset⟩ := setAt_list hnumeric items rest value
      rw [hset] at h
      obtain ⟨rfl, herror⟩ := Prod.mk.inj h
      exact ⟨_, _, .item hnumeric rfl rfl, Prod.ext rfl herror⟩
    · cases rest with
      | nil =>
        rw [setAt, setChild, if_neg hnumeric] at h
        cases h
      | cons next rest =>
        rw [setAt, if_neg hnumeric] at h
        cases h
  | _ => cases rest <;> cases h

/-- Below the node that is entered everything stands as it stood. -/
theorem node?_entered (doc : Document) (own : Step) (hrest : rest ≠ []) (hq : q ≠ []) :
    (doc.entered own rest).node? q = doc.node? (own :: q) := by
  obtain ⟨next, rest, rfl⟩ := List.exists_cons_of_ne_nil hrest
  obtain ⟨first, q, rfl⟩ := List.exists_cons_of_ne_nil hq
  have hfresh : (freshFor next).child? first = none := by
    unfold freshFor
    split <;> cases first <;> rfl
  have hmissing : (doc.missing.orFresh next).child? first = none := by
    cases doc with
    | list items => cases first <;> rfl
    | _ => exact hfresh
  rw [entered, node?, node?]
  cases hchild : doc.child? own with
  | none => rw [Option.getD_none, hmissing]; rfl
  | some old =>
    rw [Option.getD_some, Option.bind_some, node?]
    cases old with
    | null =>
      show ((freshFor next).child? first).bind _ = _
      rw [hfresh]
      rfl
    | _ => rfl

/-- A node that is not null is entered as it is, and so is what stands below it. -/
theorem node?_entered_eq_some (hrest : rest ≠ []) (h : doc.node? (own :: q) = some node)
    (hnull : node.isNull = false) : (doc.entered own rest).node? q = some node := by
  cases q with
  | nil =>
    obtain ⟨next, rest, rfl⟩ := List.exists_cons_of_ne_nil hrest
    obtain ⟨child, hchild, hnode⟩ := node?_cons_eq_some h
    cases Option.some.inj hnode
    rw [entered, hchild, Option.getD_some, orFresh, hnull]
    rfl
  | cons first q => rw [node?_entered doc own hrest (List.cons_ne_nil _ _), h]

/-! ### Steps as the containers take them -/

/-- The step as the container takes it: a key in an object, a position in a list.  Digits that are
too many for a position lead to the last item, where a write has put it. -/
def ownStep : Document → Step → Step
  | list items, step => .index (step.position?.getD (items.length - 1))
  | _, step => .key step.keyText

/-- The steps as the containers on the way take them. -/
def ownSteps : Document → List Step → List Step
  | _, [] => []
  | doc, step :: rest =>
    doc.ownStep step :: ((doc.child? (doc.ownStep step)).map (ownSteps · rest)).getD []

/-- The container has gained at most the child at the step: a list has grown at its end only and an
object by this key only, at its end, and the other children are what they were. -/
inductive Grown (own : Step) : Document → Document → Prop
  | list {items items' : List Document} (hlength : items.length ≤ items'.length)
    (hkept : ∀ i < items.length, own ≠ .index i → items'[i]? = items[i]?) :
    Grown own (.list items) (.list items')
  | object {members members' : Members} (key : String) (hown : own = .key key)
    (hkeys : Members.keys members' = Members.keys members ∨
      Members.keys members' = Members.keys members ++ [key])
    (hkept : ∀ name, name ≠ key → Members.get? members' name = Members.get? members name) :
    Grown own (.object members) (.object members')

namespace Put

theorem child?_self (h : Put step own child doc after) : after.child? own = some child := by
  cases h with
  | member hown =>
    subst hown
    exact Members.get?_set_self _ _ _
  | item hnumeric hposition hown =>
    subst hown
    exact getElem?_set_padTo_self _ _ _ _

theorem child?_of_ne (h : Put step own child doc after) {other : Step} (hne : other ≠ own)
    {old : Document} (hold : doc.child? other = some old) : after.child? other = some old := by
  cases h with
  | member hown =>
    cases other with
    | key name =>
      subst hown
      have hname : step.keyText ≠ name := fun heq => hne (by rw [heq])
      exact (Members.get?_set_of_ne _ _ hname).trans hold
    | index => cases hold
  | item hnumeric hposition hown =>
    cases other with
    | key => cases hold
    | index i =>
      subst hown
      have hlt := (List.getElem?_eq_some_iff.mp hold).1
      exact (getElem?_set_padTo_of_ne hlt fun heq => hne (by rw [heq])).trans hold

theorem ownStep_eq (h : Put step own child doc after) : after.ownStep step = own := by
  cases h with
  | member hown => exact hown.symm
  | item hnumeric hposition hown =>
    subst hown hposition
    rw [ownStep, length_set_padTo]
    cases step.position? with
    | some position => rfl
    | none => simp

theorem ownSteps_cons (h : Put step own child doc after) (rest : List Step) :
    after.ownSteps (step :: rest) = own :: child.ownSteps rest := by
  rw [ownSteps, h.ownStep_eq, h.child?_self]
  rfl

theorem node?_cons (h : Put step own child doc after) (q : List Step) :
    after.node? (own :: q) = child.node? q := by
  rw [node?, h.child?_self, Option.bind_some]

theorem grown (h : Put step own child doc after) : Grown own doc after := by
  cases h with
  | member hown =>
    refine .object step.keyText hown ?_ fun name hname => Members.get?_set_of_ne _ _ hname.symm
    rw [Members.keys_set]
    split_ifs
    · exact .inl rfl
    · exact .inr rfl
  | item hnumeric hposition hown =>
    refine .list ?_ fun i hi hne => getElem?_set_padTo_of_ne hi fun heq => hne (by rw [hown, heq])
    rw [length_set_padTo]
    exact Nat.le_max_left _ _

/-- A step that can be taken leads to the child. -/
theorem step?_eq (h : Put step own child doc after) (hfits : step.Fits) :
    after.step? step = some child := by
  cases h with
  | member hown => exact Members.get?_set_self _ _ _
  | item hnumeric hposition hown =>
    obtain ⟨position, hstep⟩ := Step.exists_position?_of_fits hfits hnumeric
    rw [hstep, Option.getD_some] at hposition
    subst hposition
    rw [step?, hstep, Option.bind_some]
    exact getElem?_set_padTo_self _ _ _ _

theorem isNull_eq (h : Put step own child doc after) : after.isNull = false := by
  cases h <;> rfl

theorem isObject_eq (h : Put step own child doc after) : after.isObject = doc.isObject := by
  cases h <;> rfl

/-- Where writing the rest in the child changes nothing, writing in the container does not
either. -/
theorem setAt_eq (h : Put step own child doc after) (hfits : step.Fits)
    (hnull : rest ≠ [] → child.isNull = false) (hchild : child.setAt rest value = (child, none)) :
    after.setAt (step :: rest) value = (after, none) := by
  have hentered : (after.entered own rest).setAt rest value = (child, none) := by
    rw [← hchild]
    cases rest with
    | nil => rfl
    | cons next rest =>
      rw [entered, h.child?_self, Option.getD_some, orFresh, hnull (List.cons_ne_nil _ _)]
      rfl
  have hself := h.child?_self
  cases h with
  | member hown =>
    subst hown
    rw [setAt_object, hentered]
    exact congrArg (fun members => (object members, none)) (Members.set_of_get?_eq_some hself)
  | @item items position filler hnumeric hposition hown =>
    subst hown
    obtain ⟨place, hstep⟩ := Step.exists_position?_of_fits hfits hnumeric
    obtain ⟨filler', hset⟩ := setAt_list hnumeric
      ((padTo items position filler).set position child) rest value
    rw [hstep, Option.getD_some] at hposition hset
    subst hposition
    obtain ⟨hlt, hget⟩ := List.getElem?_eq_some_iff.mp hself
    rw [hset, hentered, padTo_of_lt hlt]
    refine congrArg (fun items => (list items, none)) ?_
    conv_rhs => rw [← List.set_getElem_self hlt, hget]

end Put

/-! ### A whole write -/

/-- The own steps lead to the value. -/
theorem node?_ownSteps (h : doc.setAt steps value = (after, none)) :
    after.node? (after.ownSteps steps) = some value := by
  induction steps generalizing doc after with
  | nil =>
    obtain ⟨rfl, -⟩ := Prod.mk.inj h
    rfl
  | cons step rest ih =>
    obtain ⟨own, child, hput, hchild⟩ := exists_put h
    rw [hput.ownSteps_cons, hput.node?_cons, ih hchild]

/-- Steps that can be taken lead to the value, too. -/
theorem getAt?_setAt (h : doc.setAt steps value = (after, none))
    (hfits : ∀ step ∈ steps, step.Fits) : after.getAt? steps = some value := by
  induction steps generalizing doc after with
  | nil =>
    obtain ⟨rfl, -⟩ := Prod.mk.inj h
    rfl
  | cons step rest ih =>
    obtain ⟨hstep, hrest⟩ := List.forall_mem_cons.mp hfits
    obtain ⟨own, child, hput, hchild⟩ := exists_put h
    rw [getAt?, hput.step?_eq hstep, Option.bind_some, ih hchild hrest]

/-- A node that is not on the way to the one that is written, nor below it, is kept where it is. -/
theorem node?_setAt_of_apart (h : doc.setAt steps value = (after, none))
    (hapart : Apart (after.ownSteps steps) q) (hnode : doc.node? q = some node) :
    after.node? q = some node := by
  induction steps generalizing doc after q with
  | nil => exact absurd List.nil_prefix hapart.1
  | cons step rest ih =>
    obtain ⟨own, child, hput, hchild⟩ := exists_put h
    rw [hput.ownSteps_cons] at hapart
    cases q with
    | nil => exact absurd List.nil_prefix hapart.2
    | cons other q =>
      by_cases hother : other = own
      · subst hother
        rw [apart_cons_iff] at hapart
        have hq : q ≠ [] := by
          rintro rfl
          exact hapart.2 List.nil_prefix
        have hrest : rest ≠ [] := by
          rintro rfl
          exact hapart.1 List.nil_prefix
        rw [hput.node?_cons]
        exact ih hchild hapart ((node?_entered doc other hrest hq).trans hnode)
      · obtain ⟨old, hold, hbelow⟩ := node?_cons_eq_some hnode
        rw [node?, hput.child?_of_ne hother hold, Option.bind_some, hbelow]

/-- A node on the way that was there and not null has gained at most the next child on the way. -/
theorem grown_setAt (h : doc.setAt (before ++ step :: rest) value = (after, none))
    (hnode : doc.node? (after.ownSteps before) = some node) (hnull : node.isNull = false) :
    ∃ grown, after.node? (after.ownSteps before) = some grown ∧
      Grown (grown.ownStep step) node grown := by
  induction before generalizing doc after with
  | nil =>
    obtain ⟨own, child, hput, -⟩ := exists_put h
    obtain rfl : doc = node := Option.some.inj hnode
    exact ⟨after, rfl, hput.ownStep_eq ▸ hput.grown⟩
  | cons first before ih =>
    obtain ⟨own, child, hput, hchild⟩ := exists_put h
    rw [hput.ownSteps_cons] at hnode ⊢
    rw [hput.node?_cons]
    exact ih hchild (node?_entered_eq_some (by simp) hnode hnull)

/-- Writing the value once more changes nothing. -/
theorem setAt_setAt (h : doc.setAt steps value = (after, none))
    (hfits : ∀ step ∈ steps, step.Fits) : after.setAt steps value = (after, none) := by
  induction steps generalizing doc after with
  | nil =>
    obtain ⟨rfl, -⟩ := Prod.mk.inj h
    rfl
  | cons step rest ih =>
    obtain ⟨hstep, hrest⟩ := List.forall_mem_cons.mp hfits
    obtain ⟨own, child, hput, hchild⟩ := exists_put h
    refine hput.setAt_eq hstep (fun hne => ?_) (ih hchild hrest)
    obtain ⟨next, rest, rfl⟩ := List.exists_cons_of_ne_nil hne
    obtain ⟨_, _, hbelow, -⟩ := exists_put hchild
    exact hbelow.isNull_eq

/-- A write that succeeds through steps that can be taken leads to the value.  Nodes that are not on
the way to it, nor below it, are kept where they are; lists on the way have grown at the end only
and objects on the way have gained at most the key of the step; and writing once more changes
nothing. -/
theorem setAt_reads_back (hfits : ∀ step ∈ steps, step.Fits)
    (h : doc.setAt steps value = (after, none)) :
    after.getAt? steps = some value ∧
      after.node? (after.ownSteps steps) = some value ∧
      (∀ place node, doc.node? place = some node → Apart (after.ownSteps steps) place →
        after.node? place = some node) ∧
      (∀ before step rest, steps = before ++ step :: rest →
        ∀ node, doc.node? (after.ownSteps before) = some node → node.isNull = false →
          ∃ grown, after.node? (after.ownSteps before) = some grown ∧
            Grown (grown.ownStep step) node grown) ∧
      after.setAt steps value = (after, none) := by
  refine ⟨getAt?_setAt h hfits, node?_ownSteps h, fun place node hnode hapart => ?_, ?_,
    setAt_setAt h hfits⟩
  · exact node?_setAt_of_apart h hapart hnode
  · rintro before step rest rfl node hnode hnull
    exact grown_setAt h hnode hnull

/-- Digits lead past the end of a list, and a position into the object that fills it up. -/
theorem setAt_reads_back_rows :
    let doc : Document := object [("rows", list [null, object [("a", ofNat 1)]]), ("n", null)]
    let steps : List Step := [.key "rows", .key "3", .index 0, .key "x"]
    let after : Document := object [("rows", list [null, object [("a", ofNat 1)], object [],
      object [("0", object [("x", text "v")])]]), ("n", null)]
    (∀ step ∈ steps, step.Fits) ∧ doc.setAt steps (text "v") = (after, none) ∧
      after.getAt? steps = some (text "v") ∧
      after.node? [.key "rows", .index 3, .key "0", .key "x"] = some (text "v") ∧
      after.node? [.key "rows", .index 1, .key "a"] = some (ofNat 1) ∧
      after.setAt steps (text "v") = (after, none) := by
  intro doc steps after
  have hfits : ∀ step ∈ steps, step.Fits := by decide
  have hset : doc.setAt steps (text "v") = (after, none) := rfl
  obtain ⟨hread, hnode, hkept, -, hagain⟩ := setAt_reads_back hfits hset
  have hown : after.ownSteps steps = [.key "rows", .index 3, .key "0", .key "x"] := rfl
  rw [hown] at hnode hkept
  exact ⟨hfits, hset, hread, hnode, hkept [.key "rows", .index 1, .key "a"] _ rfl (by decide),
    hagain⟩

end Document

end ApiTools
