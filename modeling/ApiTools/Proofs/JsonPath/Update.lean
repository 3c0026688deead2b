import ApiTools.Overlay
import ApiTools.Proofs.Document.Nodes

/-!
# Updates through paths

What `JsonPath.update` does through a path of keys and positions whose last step is a key.  Where
the node before the last step is there, the update comes down to writing one member of this node,
with a new object in its place where it is null (`update_fst`); where it is an object, this is
`Document.setMember` (`update_of_object`).
-/

namespace ApiTools

/-- The segment of a path that selects what a step leads to. -/
def Step.segment : Step → Segment
  | key name => .key name
  | index position => .index position

/-- The path of a list of steps. -/
def JsonPath.ofSteps (steps : List Step) : JsonPath := ⟨steps.map Step.segment⟩

variable {doc child node : Document} {step : Step} {steps rest : List Step}

/-! ### Selecting -/

namespace JsonPath

theorem steps?_ofSteps (steps : List Step) : (ofSteps steps).steps? = some steps := by
  show (steps.map Step.segment).mapM Segment.step? = some steps
  rw [List.mapM_map]
  induction steps with
  | nil => rfl
  | cons step rest ih =>
    rw [List.mapM_cons, ih]
    cases step <;> rfl

theorem select_segment (h : doc.child? step = some child) :
    step.segment.select doc = [(step, child)] := by
  rcases Document.child?_cases h with ⟨members, name, rfl, rfl, hget⟩ |
    ⟨items, position, rfl, rfl, hget⟩
  · show (Segment.member? members name).toList = _
    rw [Segment.member?, hget]
    rfl
  · show (Segment.item? items position).toList = _
    rw [Segment.item?, hget]
    rfl

/-- The search walks along the steps to a node. -/
theorem foldl_expand (h : doc.node? steps = some node) (before : List Step) :
    (steps.map Step.segment).foldl expand [(before, doc)] = [(before ++ steps, node)] := by
  induction steps generalizing doc before with
  | nil =>
    cases Option.some.inj h
    rw [List.append_nil]
    rfl
  | cons step rest ih =>
    obtain ⟨child, hchild, hnode⟩ := Document.node?_cons_eq_some h
    rw [List.map_cons, List.foldl_cons, expand, List.flatMap_singleton]
    simp only [select_segment hchild, List.map_singleton]
    rw [ih hnode, List.append_assoc]
    rfl

/-- Through the steps to a node and one step more, that is selected which the last step selects
there. -/
theorem find_ofSteps_append (h : doc.node? steps = some node) (last : Step) :
    (ofSteps (steps ++ [last])).find doc
      = (last.segment.select node).map fun entry => steps ++ [entry.1] := by
  unfold find ofSteps
  rw [List.map_append, List.foldl_append, foldl_expand h]
  simp [expand, Function.comp_def]

end JsonPath

/-! ### Writing -/

namespace Document

/-- A document that has children is not null. -/
theorem orFresh_of_child? (h : doc.child? step = some child) (next : Step) :
    doc.orFresh next = doc := by
  rcases child?_cases h with ⟨_, _, rfl, -⟩ | ⟨_, _, rfl, -⟩ <;> rfl

/-- One step of writing goes into the child that is there, or into what takes its place where it is
null. -/
theorem setAt_cons (h : doc.child? step = some child) (next : Step) (rest : List Step)
    (value : Document) :
    doc.setAt (step :: next :: rest) value
      = (doc.withChild step ((child.orFresh next).setAt (next :: rest) value).1,
        ((child.orFresh next).setAt (next :: rest) value).2) := by
  rcases child?_cases h with ⟨members, name, rfl, rfl, hget⟩ | ⟨items, position, rfl, rfl, hget⟩
  · simp only [setAt, Step.keyText, hget, Option.getD_some]
    rfl
  · obtain ⟨hlt, -⟩ := List.getElem?_eq_some_iff.mp hget
    have hpad : padTo items position (.object []) = items := by
      unfold padTo
      rw [Nat.sub_eq_zero_of_le hlt, List.replicate_zero, List.append_nil]
    simp only [setAt, Step.isNumeric, if_true, Step.position?, Option.getD_some, hpad, hget]
    rfl

/-- Writing below a node writes a child of this node, or of what takes its place where it is
null. -/
theorem setAt_append (h : doc.node? (step :: steps) = some node) (last : Step) (value : Document) :
    doc.setAt (step :: steps ++ [last]) value
      = (doc.replaceAt (step :: steps) ((node.orFresh last).setChild last value).1,
        ((node.orFresh last).setChild last value).2) := by
  induction steps generalizing doc step with
  | nil =>
    obtain ⟨child, hchild, hnode⟩ := node?_cons_eq_some h
    cases Option.some.inj hnode
    rw [List.cons_append, List.nil_append, setAt_cons hchild, replaceAt_cons hchild]
    rfl
  | cons second rest ih =>
    obtain ⟨child, hchild, hnode⟩ := node?_cons_eq_some h
    obtain ⟨grandchild, hgrandchild, -⟩ := node?_cons_eq_some hnode
    rw [List.cons_append, List.cons_append, setAt_cons hchild, replaceAt_cons hchild,
      orFresh_of_child? hgrandchild]
    have hrest := ih hnode
    rw [List.cons_append] at hrest
    rw [hrest]

end Document

/-! ### Updates of a member -/

/-- The node with a member set: null gives way to a new object, and other nodes that are no objects
stay as they are. -/
def Document.putMember : Document → String → Document → Document
  | .object members, key, value => .object (Members.set members key value)
  | .null, key, value => .object [(key, value)]
  | node, _, _ => node

/-- Writing a child under a key that is no position, where null gives way to a new container. -/
theorem Document.fst_setChild {key : String} (hnumeric : (Step.key key).isNumeric = false)
    (value : Document) :
    ((node.orFresh (.key key)).setChild (.key key) value).1 = node.putMember key value := by
  unfold orFresh freshFor
  cases node <;> simp [isNull, setChild, hnumeric, putMember, Step.keyText, Members.set]

namespace JsonPath

open Document

variable {members : Members}

/-- An update through steps that lead nowhere yet writes there what is missing. -/
theorem update_of_find_nil (h : (ofSteps steps).find doc = []) {value written : Document}
    {error? : Option EditError} (hset : doc.setAt steps value = (written, error?)) :
    (ofSteps steps).update doc value
      = (written, error?.elim (.ok .created) fun cause => .error (.edit cause)) := by
  unfold update
  rw [h]
  simp only [steps?_ofSteps, hset]
  cases error? <;> rfl

/-- An update through steps to one node overwrites it. -/
theorem update_of_find_singleton {path : JsonPath} (h : path.find doc = [steps])
    (value : Document) : path.update doc value = (doc.replaceAt steps value, .ok .applied) := by
  unfold update
  rw [h]
  rfl

/-- An update of a member of an object sets it, and creates it where it is not there. -/
theorem update_of_object (h : doc.node? (step :: steps) = some (.object members)) (key : String)
    (value : Document) :
    (ofSteps (step :: steps ++ [.key key])).update doc value
      = (doc.setMember (step :: steps) key value,
        .ok (if (doc.node? (step :: steps ++ [.key key])).isSome then .applied else .created)) := by
  have hfind := find_ofSteps_append h (.key key)
  have hread : doc.node? (step :: steps ++ [.key key])
      = (Document.object members).child? (.key key) := by
    rw [node?_append, h, Option.bind_some, node?]
    cases child? _ (.key key) <;> rfl
  rw [hread, setMember_of_object h]
  cases hkey : (Document.object members).child? (.key key) with
  | none =>
    have hselect : (Step.key key).segment.select (.object members) = [] := by
      change Members.get? members key = none at hkey
      simp [Step.segment, Segment.select, Segment.member?, hkey]
    rw [hselect] at hfind
    exact update_of_find_nil hfind (setAt_append h (.key key) value)
  | some old =>
    rw [select_segment hkey] at hfind
    rw [update_of_find_singleton hfind, replaceAt_append h, replaceAt_cons hkey]
    rfl

/-- An update of a member under a key that is no position, whatever the node may be. -/
theorem update_fst (h : doc.node? (step :: steps) = some node) {key : String}
    (hposition : positionOfKey? key = none) (hnumeric : (Step.key key).isNumeric = false)
    (value : Document) :
    ((ofSteps (step :: steps ++ [.key key])).update doc value).1
      = doc.replaceAt (step :: steps) (node.putMember key value) := by
  cases hnode : node with
  | object members =>
    rw [hnode] at h
    rw [update_of_object h, setMember_of_object h]
    rfl
  | _ =>
    -- Nothing is selected, and writing gives a new object, or else an error.
    have hselect : (Step.key key).segment.select node = [] := by
      simp [hnode, Step.segment, Segment.select, hposition]
    have hfind := find_ofSteps_append h (.key key)
    rw [hselect] at hfind
    rw [update_of_find_nil hfind (setAt_append h (.key key) value), fst_setChild hnumeric, hnode]

end JsonPath

end ApiTools
