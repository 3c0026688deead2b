import ApiTools.Proofs.Overlay.Places
import ApiTools.Proofs.Spec.Operations

/-!
# Applying a generated overlay

A generated overlay applied to the description that it was generated for sets every text that it is
about, and nothing else.  The step is `applyAction_action`: an action at a place whose object is
there sets one member.  `applied_foldl` carries it through the whole overlay; the places lie beside
each other, so that a later action neither undoes an earlier one nor takes its object away.
`apply_generate` puts this together with what the places of an overlay are.
-/

namespace ApiTools

open Document

namespace TextPlace

/-- The target can be read back. -/
def Readable (place : TextPlace) : Prop := '\\' ∉ place.path.toList ∧ place.slot.Fits

/-- The object that holds the text is there. -/
def HasOwner (doc : Document) (place : TextPlace) : Prop :=
  (doc.node? place.owner).map isObject = some true

variable {doc : Document} {place : TextPlace}

theorem HasOwner.members (h : HasOwner doc place) :
    ∃ members, doc.node? place.owner = some (.object members) := by
  obtain ⟨node, hnode, hobject⟩ := Option.map_eq_some_iff.mp h
  cases node with
  | object members => exact ⟨members, hnode⟩
  | _ => cases hobject

theorem target_not_blank (place : TextPlace) : Text.isBlankText place.target = false := by
  have hfirst : '$' ∈ place.target.toList := by simp [target, String.toList_append]
  unfold Text.isBlankText
  rw [List.all_eq_false]
  exact ⟨'$', hfirst, by decide⟩

end TextPlace

/-- The action at a place whose target can be read is an update through the steps to the place. -/
theorem TextPlace.apply_action {place : TextPlace} (hread : place.Readable) (text : String)
    (doc : Document) :
    (place.action text).apply doc = (JsonPath.ofSteps place.steps).update doc (.text text) := by
  unfold OverlayAction.apply action
  simp only [place.target_not_blank, readTarget_target hread.1 hread.2]
  rfl

namespace Overlay

/-! ### One action -/

/-- One step: the text is set, and it is counted as created where nothing was there. -/
theorem applyAction_action {place : TextPlace} (hread : place.Readable)
    {state : Document × ApplyStats} (howner : place.HasOwner state.1) (text : String) :
    applyAction state (place.action text)
      = (state.1.setMember place.owner place.slot.key (.text text),
        state.2.add (if (state.1.node? place.steps).isSome then .applied else .created)) := by
  obtain ⟨members, hmembers⟩ := howner.members
  have hupdate := JsonPath.update_of_object hmembers place.slot.key (.text text)
  unfold applyAction
  rw [TextPlace.apply_action hread]
  change (JsonPath.ofSteps place.steps).update state.1 (.text text) = _ at hupdate
  rw [hupdate]
  rfl

/-! ### A run of actions -/

/-- What a run of edits makes of a document and its counts. -/
structure Applied (edits : List (TextPlace × String)) (before after : Document × ApplyStats) :
    Prop where
  /-- Every edit is there in the end. -/
  written : ∀ edit ∈ edits, after.1.node? edit.1.steps = some (.text edit.2)
  /-- What lies beside all edits is as it was. -/
  kept : ∀ steps, (∀ edit ∈ edits, Apart edit.1.steps steps) →
    after.1.node? steps = before.1.node? steps
  /-- Objects that no edit overwrites stay objects. -/
  objects : ∀ steps, (∀ edit ∈ edits, ¬ edit.1.steps <+: steps) →
    (after.1.node? steps).map isObject = (before.1.node? steps).map isObject
  /-- Every edit is counted, as created where nothing was there before. -/
  counts : after.2 = ⟨before.2.applied + edits.length, before.2.skipped,
    before.2.created + edits.countP fun edit => (before.1.node? edit.1.steps).isNone⟩

variable {edit : TextPlace × String} {edits : List (TextPlace × String)}
  {before middle after state : Document × ApplyStats}

/-- A run of one action. -/
theorem applied_singleton (hread : edit.1.Readable) (howner : edit.1.HasOwner state.1) :
    Applied [edit] state (applyAction state (edit.1.action edit.2)) := by
  obtain ⟨members, hmembers⟩ := howner.members
  rw [applyAction_action hread howner]
  refine ⟨?_, ?_, ?_, ?_⟩
  · intro other hother
    rw [List.mem_singleton.mp hother]
    exact node?_setMember_self hmembers _ _
  · intro steps hsteps
    exact node?_setMember_of_apart hmembers _ _ (hsteps edit (List.mem_singleton_self _))
  · intro steps hsteps
    exact isObject_node?_setMember hmembers _ _ (hsteps edit (List.mem_singleton_self _))
  · rw [List.countP_singleton]
    cases state.1.node? edit.1.steps <;> rfl

/-- A run after one edit, where all edits are beside the first one. -/
theorem Applied.cons (hfirst : Applied [edit] before middle) (hrest : Applied edits middle after)
    (hapart : ∀ other ∈ edits, Apart edit.1.steps other.1.steps) :
    Applied (edit :: edits) before after := by
  have hbeside : ∀ steps, Apart edit.1.steps steps →
      middle.1.node? steps = before.1.node? steps := by
    intro steps hsteps
    apply hfirst.kept
    simpa using hsteps
  refine ⟨?_, ?_, ?_, ?_⟩
  · -- What the first edit wrote stays, since the others are beside it.
    intro other hother
    rcases List.mem_cons.mp hother with rfl | hother
    · rw [hrest.kept _ fun other hother => (hapart other hother).symm]
      exact hfirst.written other (List.mem_singleton_self _)
    · exact hrest.written other hother
  · intro steps hsteps
    rw [List.forall_mem_cons] at hsteps
    rw [hrest.kept steps hsteps.2, hbeside steps hsteps.1]
  · intro steps hsteps
    rw [List.forall_mem_cons] at hsteps
    rw [hrest.objects steps hsteps.2, hfirst.objects steps (by simpa using hsteps.1)]
  · -- The first edit does not change what is there at the places of the others.
    have hcount : (edits.countP fun other => (middle.1.node? other.1.steps).isNone)
        = edits.countP fun other => (before.1.node? other.1.steps).isNone := by
      apply List.countP_congr
      intro other hother
      rw [hbeside _ (hapart other hother)]
    rw [hrest.counts, hfirst.counts, hcount, List.countP_singleton, List.countP_cons]
    simp only [List.length_cons, List.length_nil, ApplyStats.mk.injEq, true_and]
    omega

/-- A run of actions at different places whose objects are there. -/
theorem applied_foldl (hread : ∀ edit ∈ edits, edit.1.Readable)
    (howner : ∀ edit ∈ edits, edit.1.HasOwner state.1) (hnodup : (edits.map Prod.fst).Nodup) :
    Applied edits state
      ((edits.map fun edit => edit.1.action edit.2).foldl applyAction state) := by
  induction edits generalizing state with
  | nil => exact ⟨by simp, fun _ _ => rfl, fun _ _ => rfl, rfl⟩
  | cons first rest ih =>
    rw [List.map_cons, List.nodup_cons] at hnodup
    rw [List.forall_mem_cons] at hread howner
    have hfirst := applied_singleton hread.1 howner.1
    -- The objects of the places that follow are still there after the first step.
    have howner' : ∀ edit ∈ rest,
        edit.1.HasOwner (applyAction state (first.1.action first.2)).1 := by
      intro edit hedit
      unfold TextPlace.HasOwner
      rw [hfirst.objects _ (by simpa using TextPlace.not_prefix_owner first.1 edit.1)]
      exact howner.2 edit hedit
    have hapart : ∀ edit ∈ rest, Apart first.1.steps edit.1.steps := by
      intro edit hedit
      apply TextPlace.apart_of_ne
      intro heq
      exact hnodup.1 (heq ▸ List.mem_map_of_mem hedit)
    have hrest := @ih (applyAction state (first.1.action first.2)) hread.2 howner' hnodup.2
    rw [List.map_cons, List.foldl_cons]
    exact hfirst.cons hrest hapart

/-! ### The whole overlay -/

variable {settings : OverlaySettings} {spec : Spec} {op : Operation} {place : TextPlace}

/-- The object that holds the text of a place is there, where the parameters are objects. -/
theorem hasOwner_of_mem (distinct : spec.HasDistinctPaths) (hop : op ∈ spec.operations)
    (hparameters : ∀ p ∈ op.parameters, p.isObject = true)
    (h : place ∈ operationPlaces settings op) : place.HasOwner spec.root := by
  obtain ⟨hpath, hmethod, hslot⟩ := of_mem_operationPlaces h
  have hnode := Spec.node?_of_mem_operations distinct hop
  rw [← hpath, ← hmethod] at hnode
  unfold TextPlace.HasOwner
  rw [TextPlace.owner_eq, TextPlace.operation, node?_append, hnode, Option.bind_some]
  cases hcase : place.slot with
  | parameter position =>
    obtain ⟨parameter, hparameter, -⟩ := hslot position hcase
    rw [TextSlot.owner, Spec.node?_parameter hparameter, Option.map_some,
      hparameters parameter (List.mem_of_getElem? hparameter)]
  | _ => exact congrArg some (Spec.mem_operations.mp hop).2.2

/-- The targets of an overlay can be read back. -/
theorem readable_of_mem (hpaths : ∀ op ∈ spec.operations, '\\' ∉ op.path.toList)
    (hpositions : ∀ op ∈ spec.operations, op.parameters.length ≤ maxPosition)
    (h : place ∈ places settings spec) : place.Readable := by
  obtain ⟨op, hop, hplace⟩ := mem_places h
  obtain ⟨heq, -, -⟩ := of_mem_operationPlaces hplace
  exact ⟨heq ▸ hpaths op hop, fits_of_mem_operationPlaces (hpositions op hop) hplace⟩

/-- A generated overlay skips nothing, sets every text that it is about, and leaves everything
beside these texts as it was.  That positions can be written is no condition on descriptions that
fit into memory. -/
theorem apply_generate (settings : OverlaySettings) (assistant? : Option Assistant) (spec : Spec)
    (distinct : spec.HasDistinctPaths)
    (hpaths : ∀ op ∈ spec.operations, '\\' ∉ op.path.toList)
    (hparameters : ∀ op ∈ spec.operations, ∀ p ∈ op.parameters, p.isObject = true)
    (hpositions : ∀ op ∈ spec.operations, op.parameters.length ≤ maxPosition) :
    let overlay := (generate settings assistant? spec).overlay
    let result := overlay.apply spec.root
    result.2 = ⟨overlay.actions.length, 0, (places settings spec).countP fun place =>
        (spec.root.node? place.steps).isNone⟩ ∧
      List.Forall₂ (fun place action => ∃ text, action = place.action text ∧
          result.1.node? place.steps = some (.text text)) (places settings spec) overlay.actions ∧
      ∀ steps, (∀ place ∈ places settings spec, Apart place.steps steps) →
        result.1.node? steps = spec.root.node? steps := by
  obtain ⟨edits, hplaces, hactions⟩ := actions_generate settings assistant? spec
  have hmem : ∀ edit ∈ edits, edit.1 ∈ places settings spec := by
    intro edit hedit
    rw [← hplaces]
    exact List.mem_map_of_mem hedit
  have hread : ∀ edit ∈ edits, edit.1.Readable := fun edit hedit =>
    readable_of_mem hpaths hpositions (hmem edit hedit)
  have howner : ∀ edit ∈ edits, edit.1.HasOwner spec.root := by
    intro edit hedit
    obtain ⟨op, hop, hplace⟩ := mem_places (hmem edit hedit)
    exact hasOwner_of_mem distinct hop (hparameters op hop) hplace
  have happlied := @applied_foldl edits (spec.root, .zero) hread howner
    (hplaces ▸ nodup_places settings distinct)
  intro overlay result
  have hresult : result = (edits.map fun edit => edit.1.action edit.2).foldl applyAction
      (spec.root, .zero) := by
    show overlay.actions.foldl applyAction _ = _
    rw [hactions]
  rw [← hresult] at happlied
  refine ⟨?_, ?_, ?_⟩
  · rw [happlied.counts, hactions, List.length_map, ← hplaces, List.countP_map]
    simp [ApplyStats.zero, Function.comp_def]
  · rw [hactions, ← hplaces, List.forall₂_map_left_iff, List.forall₂_map_right_iff]
    exact List.forall₂_same.mpr fun edit hedit => ⟨edit.2, rfl, happlied.written edit hedit⟩
  · intro steps hsteps
    exact happlied.kept steps fun edit hedit => hsteps edit.1 (hmem edit hedit)

/-- A description with one operation, which has a description, a parameter and a reference. -/
def notesSpec : Spec := ⟨.object [("paths", .object [("/it's", .object [("get", .object [
  ("description", .text "Lists."),
  ("parameters", .list [.object [("name", .text "page")], .object [("$ref", .text "#/x")]])])])])]⟩

/-- In this description one text is overwritten and two are created. -/
theorem apply_generate_notesSpec :
    (notesSpec.HasDistinctPaths ∧ (∀ op ∈ notesSpec.operations, '\\' ∉ op.path.toList) ∧
      (∀ op ∈ notesSpec.operations, ∀ p ∈ op.parameters, p.isObject = true) ∧
      ∀ op ∈ notesSpec.operations, op.parameters.length ≤ maxPosition) ∧
    ((generate {} none notesSpec).overlay.apply notesSpec.root).2 = ⟨3, 0, 2⟩ := by
  have hdistinct : notesSpec.HasDistinctPaths := by decide
  have hpaths : ∀ op ∈ notesSpec.operations, '\\' ∉ op.path.toList := by decide
  have hparameters : ∀ op ∈ notesSpec.operations, ∀ p ∈ op.parameters, p.isObject = true := by
    decide
  have hpositions : ∀ op ∈ notesSpec.operations, op.parameters.length ≤ maxPosition := by
    decide
  refine ⟨⟨hdistinct, hpaths, hparameters, hpositions⟩, ?_⟩
  have hresult := apply_generate {} none notesSpec hdistinct hpaths hparameters hpositions
  refine hresult.1.trans ?_
  have hcreated : ((places {} notesSpec).countP fun place =>
      (notesSpec.root.node? place.steps).isNone) = 2 := by decide
  have hactions : (generate {} none notesSpec).overlay.actions.length = 3 := by
    rw [← hresult.2.1.length_eq]
    decide
  rw [hcreated, hactions]

end Overlay

end ApiTools
