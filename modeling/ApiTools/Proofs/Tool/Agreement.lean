import ApiTools.Proofs.Spec.Agreement
import ApiTools.Proofs.Tool.BodySteps
import ApiTools.Tool.Extract

/-!
# Tools of descriptions that agree on references

Where two descriptions agree on the references of one of them, a schema with such references has the
same type hint (`typeHint_eq`) and the same arguments (`flatten_eq`) in both.  An operation has the
same tool in both then, up to the texts that describe it, where its parameters are the same up to
these texts (`tool?_eq`).
-/

namespace ApiTools

namespace Spec

open Document

variable {spec other : Spec} {doc schema : Document}

/-! ### Type hints -/

theorem mem_parts_of_alternatives? {branches : List Document} {branch : Document}
    (h : alternatives? schema = some branches) (hbranch : branch ∈ branches) :
    branch ∈ schema.parts := by
  obtain ⟨value, hvalue, hlist⟩ := Option.bind_eq_some_iff.mp h
  have hpart : value ∈ schema.parts := by
    cases hone : schema.get? "oneOf" with
    | some first =>
      rw [hone] at hvalue
      cases hvalue
      exact mem_parts_of_get? hone
    | none =>
      rw [hone] at hvalue
      exact mem_parts_of_get? hvalue
  cases value <;> cases hlist
  exact mem_parts_trans schema (mem_parts_of_item hbranch) hpart

/-- One level of a type hint depends on the hints of parts of the resolved schema only. -/
theorem typeHintWithin_succ_congr {levels : Nat}
    (hresolve : spec.resolveSchema schema = other.resolveSchema schema)
    (h : ∀ part ∈ (spec.resolveSchema schema).parts,
      spec.typeHintWithin levels part = other.typeHintWithin levels part) :
    spec.typeHintWithin (levels + 1) schema = other.typeHintWithin (levels + 1) schema := by
  rw [typeHintWithin, typeHintWithin, ← hresolve]
  have hitems : ((spec.resolveSchema schema).get? "items").map (spec.typeHintWithin levels)
      = ((spec.resolveSchema schema).get? "items").map (other.typeHintWithin levels) :=
    Option.map_congr fun items hget => h items (mem_parts_of_get? hget)
  rw [hitems]
  cases halternatives : alternatives? (spec.resolveSchema schema) with
  | none => simp only
  | some branches =>
    have hbranches :
        (branches.filter (schemaType? · ≠ some "null")).map (spec.typeHintWithin levels)
          = (branches.filter (schemaType? · ≠ some "null")).map (other.typeHintWithin levels) :=
      List.map_congr_left fun branch hbranch =>
        h branch (mem_parts_of_alternatives? halternatives (List.mem_of_mem_filter hbranch))
    simp only [hbranches]

theorem typeHint_eq (hroot : RefsIn (AgreeOn spec other) spec.root)
    (hdoc : RefsIn (AgreeOn spec other) doc) : spec.typeHint doc = other.typeHint doc := by
  -- The induction is on the levels; a resolved schema has agreeing references again.
  have hwithin : ∀ levels doc, RefsIn (AgreeOn spec other) doc →
      spec.typeHintWithin levels doc = other.typeHintWithin levels doc := by
    intro levels
    induction levels with
    | zero =>
      intro doc _
      rw [typeHintWithin, typeHintWithin]
    | succ levels ih =>
      intro doc hdoc
      refine typeHintWithin_succ_congr (resolveSchema_eq hroot hdoc) ?_
      exact fun part hpart => ih part ((refsIn_resolveSchema hroot hdoc).of_part hpart)
  exact hwithin _ doc hdoc

theorem leafHint_eq (hroot : RefsIn (AgreeOn spec other) spec.root)
    (hdoc : RefsIn (AgreeOn spec other) doc) : spec.leafHint doc = other.leafHint doc := by
  have hitems : (doc.get? "items").map (isObjectSchema ∘ spec.resolveSchema)
      = (doc.get? "items").map (isObjectSchema ∘ other.resolveSchema) :=
    Option.map_congr fun items hget =>
      congrArg isObjectSchema (resolveSchema_eq hroot (hdoc.get? hget))
  unfold leafHint
  rw [hitems, typeHint_eq hroot hdoc]

/-! ### Bodies -/

theorem refsIn_withoutBranches {P : String → Prop} (h : RefsIn P schema) :
    RefsIn P (withoutBranches schema) := by
  cases schema with
  | object members =>
    rw [withoutBranches, Members.foldl_erase]
    exact h.subset (List.filter_subset_self _)
  | _ => exact h

/-- Flattening goes on with schemas whose references agree. -/
theorem refsIn_continuations (hroot : RefsIn (AgreeOn spec other) spec.root)
    {state next : Document × Nat} (hstate : RefsIn (AgreeOn spec other) state.1)
    (hnext : next ∈ spec.continuations state) : RefsIn (AgreeOn spec other) next.1 := by
  have hresolved := refsIn_resolve hroot hstate
  rcases mem_continuationsOf hnext with
    ⟨-, -, hschema | hbranch⟩ | ⟨-, -, properties, hproperties, entry, hentry, hschema⟩
  · rw [hschema]
    exact refsIn_withoutBranches hresolved
  · exact hresolved.of_part (mem_parts_of_mem_branches hbranch)
  · rw [hschema]
    exact hresolved.of_part (mem_parts_of_getMembers? hproperties hentry)

theorem flattenWithin_eq (hroot : RefsIn (AgreeOn spec other) spec.root) (steps : Nat)
    (hschema : RefsIn (AgreeOn spec other) schema) (place : BodyPlace) :
    spec.flattenWithin steps schema place = other.flattenWithin steps schema place := by
  induction steps generalizing schema place with
  | zero => rfl
  | succ steps ih =>
    refine flattenWithin_succ_congr (resolve_eq hroot hschema)
      (leafHint_eq hroot (refsIn_resolve hroot hschema)) ?_
    intro state hstate inner hinner
    exact ih (refsIn_continuations hroot hschema hstate) inner

/-- The number of steps that is enough may differ, but the arguments are the same. -/
theorem flatten_eq (hroot : RefsIn (AgreeOn spec other) spec.root)
    (hschema : RefsIn (AgreeOn spec other) schema) {place : BodyPlace}
    (hdepth : place.keys.length ≤ maxBodyDepth) :
    spec.flatten schema place = other.flatten schema place := by
  ext arguments
  -- Within any number of steps the arguments are the same, and so they are within enough steps.
  rw [flatten_eq_some_iff hdepth, flatten_eq_some_iff hdepth]
  simp only [flattenWithin_eq hroot _ hschema]

end Spec

/-! ### Without the texts -/

/-- The argument without its description. -/
def Argument.withoutText (argument : Argument) : Argument := { argument with description := "" }

/-- What an operation has given, without the descriptions of the arguments. -/
def ToolParts.withoutTexts (parts : ToolParts) : ToolParts :=
  { parts with arguments := parts.arguments.map Argument.withoutText }

theorem ToolParts.withoutTexts_eq_iff {parts parts' : ToolParts} :
    parts.withoutTexts = parts'.withoutTexts ↔
      parts.arguments.map Argument.withoutText = parts'.arguments.map Argument.withoutText ∧
        parts.formattedPath = parts'.formattedPath := by
  unfold withoutTexts
  rw [ToolParts.mk.injEq]

/-- The tool without its summary and all descriptions. -/
def Tool.withoutTexts (tool : Tool) : Tool :=
  { tool with
    arguments := tool.arguments.map Argument.withoutText
    summary := ""
    description := "" }

/-- Two computations of two steps that are equal as far as can be seen. -/
theorem map_bind_eq {α β γ δ : Type} {x y : Option α} {f : α → β} {k k' : α → Option γ} {g : γ → δ}
    (h : x.map f = y.map f) (hk : ∀ a b, f a = f b → (k a).map g = (k' b).map g) :
    (x.bind k).map g = (y.bind k').map g := by
  cases x with
  | none =>
    cases y with
    | none => rfl
    | some b => cases h
  | some a =>
    cases y with
    | none => cases h
    | some b => exact hk a b (Option.some.inj h)

namespace Spec

open Document

/-- Two parameters that are the same for a tool, up to the description: those without a name give no
argument, and body parameters are equal. -/
structure SameParameter (before after : Document) : Prop where
  name : before.getText? "name" = after.getText? "name"
  location : before.getText? "in" = after.getText? "in"
  others : before.getText? "name" = none ∨
    ∀ key, key ≠ "description" → before.get? key = after.get? key
  body : before.getText? "in" = some "body" → before = after

theorem SameParameter.refl (parameter : Document) : SameParameter parameter parameter :=
  ⟨rfl, rfl, .inr fun _ _ => rfl, fun _ => rfl⟩

variable {spec other : Spec} {before after : Document}

/-! ### Arguments of parameters -/

theorem parameterSchema_congr (h : ∀ key, key ≠ "description" → before.get? key = after.get? key) :
    parameterSchema before = parameterSchema after := by
  have himplied : impliedSchema before = impliedSchema after := by
    unfold impliedSchema
    congr 1
    apply List.filterMap_congr
    intro key hkey
    rw [h key (by rintro rfl; revert hkey; decide)]
  unfold parameterSchema
  rw [himplied, h "schema" (by decide)]

theorem isRequiredParameter_congr
    (h : ∀ key, key ≠ "description" → before.get? key = after.get? key) :
    isRequiredParameter before = isRequiredParameter after := by
  unfold isRequiredParameter
  rw [h "required" (by decide)]

theorem refsIn_parameterSchema {P : String → Prop} (h : RefsIn P before) :
    RefsIn P (parameterSchema before) := by
  unfold parameterSchema
  cases hschema : before.get? "schema" with
  | some schema => exact h.get? hschema
  | none =>
    refine refsIn_object.mpr fun entry hentry => ?_
    obtain ⟨key, hkey, hvalue⟩ := List.mem_filterMap.mp hentry
    obtain ⟨value, hget, rfl⟩ := Option.map_eq_some_iff.mp hvalue
    exact .of_ne (by rintro rfl; revert hkey; decide) (h.get? hget)

theorem refsIn_bodySchema {P : String → Prop} {body schema : Document} (h : RefsIn P body)
    (hschema : bodySchema? body = some schema) : RefsIn P schema := by
  obtain ⟨media, hmedia, hget⟩ := Option.bind_eq_some_iff.mp hschema
  obtain ⟨content, hcontent, hused⟩ := Option.bind_eq_some_iff.mp hmedia
  have hentry : ∃ entry ∈ content, entry.2 = media := by
    unfold bodyMedia? at hused
    cases hjson : Members.get? content "application/json" with
    | some value =>
      rw [hjson] at hused
      exact ⟨_, Members.mem_of_get? hjson, Option.some.inj hused⟩
    | none =>
      rw [hjson] at hused
      obtain ⟨entry, hfirst, heq⟩ := Option.map_eq_some_iff.mp hused
      exact ⟨entry, List.mem_of_mem_head? hfirst, heq⟩
  obtain ⟨entry, hmem, rfl⟩ := hentry
  exact (h.of_part (mem_parts_of_getMembers? hcontent hmem)).get? hget

theorem pathArgument_eq (hroot : RefsIn (AgreeOn spec other) spec.root)
    (hrefs : RefsIn (AgreeOn spec other) before)
    (h : ∀ key, key ≠ "description" → before.get? key = after.get? key) (name : String) :
    (spec.pathArgument name before).withoutText = (other.pathArgument name after).withoutText := by
  have hhint := typeHint_eq hroot (refsIn_parameterSchema hrefs)
  unfold pathArgument Argument.withoutText
  rw [hhint, parameterSchema_congr h]

theorem queryArgument_eq (hroot : RefsIn (AgreeOn spec other) spec.root)
    (hrefs : RefsIn (AgreeOn spec other) before)
    (h : ∀ key, key ≠ "description" → before.get? key = after.get? key) (name : String) :
    (spec.queryArgument name before).withoutText
      = (other.queryArgument name after).withoutText := by
  have hhint := typeHint_eq hroot (refsIn_parameterSchema hrefs)
  unfold queryArgument Argument.withoutText
  rw [hhint, parameterSchema_congr h, isRequiredParameter_congr h]

theorem withoutTexts_append {parts parts' : ToolParts}
    (h : parts.withoutTexts = parts'.withoutTexts) {more more' : List Argument}
    (hmore : more.map Argument.withoutText = more'.map Argument.withoutText) (path : String) :
    ToolParts.withoutTexts ⟨parts.arguments ++ more, path⟩
      = ToolParts.withoutTexts ⟨parts'.arguments ++ more', path⟩ := by
  rw [ToolParts.withoutTexts_eq_iff] at h ⊢
  rw [List.map_append, List.map_append, h.1, hmore]
  exact ⟨rfl, rfl⟩

/-- One step: the same parameter gives the same, up to the texts. -/
theorem addToolParameter_eq (hroot : RefsIn (AgreeOn spec other) spec.root)
    (hrefs : RefsIn (AgreeOn spec other) before) (hsame : SameParameter before after)
    {parts parts' : ToolParts} (hparts : parts.withoutTexts = parts'.withoutTexts) :
    (spec.addToolParameter parts before).map ToolParts.withoutTexts
      = (other.addToolParameter parts' after).map ToolParts.withoutTexts := by
  have hpath := (ToolParts.withoutTexts_eq_iff.mp hparts).2
  unfold addToolParameter
  rw [← hsame.name, ← hsame.location]
  cases hname : before.getText? "name" with
  | none => exact congrArg some hparts
  | some name =>
    have hothers := hsame.others.resolve_left (by rw [hname]; simp)
    -- One case for each location: path, query, body, and those that give no argument.
    dsimp only
    split
    · refine congrArg some ?_
      have hargument := pathArgument_eq hroot hrefs hothers name
      have hargumentName : (spec.pathArgument name before).name
          = (other.pathArgument name after).name := rfl
      rw [hpath, hargumentName]
      apply withoutTexts_append hparts
      rw [List.map_singleton, List.map_singleton, hargument]
    · refine congrArg some ?_
      have hargument := queryArgument_eq hroot hrefs hothers name
      rw [hpath]
      apply withoutTexts_append hparts
      rw [List.map_singleton, List.map_singleton, hargument]
    · rename_i hbody
      obtain rfl := hsame.body hbody
      rw [flatten_eq hroot (refsIn_parameterSchema hrefs) (Nat.zero_le _)]
      cases other.flatten (parameterSchema before) _ with
      | none => rfl
      | some found =>
        refine congrArg some ?_
        rw [hpath]
        exact withoutTexts_append hparts rfl _
    · exact congrArg some hparts

/-! ### Tools -/

/-- The parameters of one description, with agreeing references only, and the same parameters in the
other. -/
def SameParameters (spec other : Spec) : List Document → List Document → Prop :=
  List.Forall₂ fun before after => RefsIn (AgreeOn spec other) before ∧ SameParameter before after

/-- A run over the same parameters gives the same, up to the texts. -/
theorem foldlM_addToolParameter_eq (hroot : RefsIn (AgreeOn spec other) spec.root)
    {parameters parameters' : List Document}
    (hparameters : SameParameters spec other parameters parameters') {parts parts' : ToolParts}
    (hparts : parts.withoutTexts = parts'.withoutTexts) :
    (parameters.foldlM spec.addToolParameter parts).map ToolParts.withoutTexts
      = (parameters'.foldlM other.addToolParameter parts').map ToolParts.withoutTexts := by
  induction hparameters generalizing parts parts' with
  | nil => exact congrArg some hparts
  | cons hfirst _ ih =>
    rw [List.foldlM_cons, List.foldlM_cons]
    exact map_bind_eq (addToolParameter_eq hroot hfirst.1 hfirst.2 hparts) fun _ _ => ih

theorem sameParameters_addParameter {known known' : List Document}
    (hknown : SameParameters spec other known known')
    (hrefs : RefsIn (AgreeOn spec other) before) (hsame : SameParameter before after) :
    SameParameters spec other (addParameter known before) (addParameter known' after) := by
  have hkey : ∀ {v w}, SameParameter v w → parameterKey v = parameterKey w := fun h =>
    Prod.ext h.name h.location
  induction hknown with
  | nil => exact .cons ⟨hrefs, hsame⟩ .nil
  | cons hfirst hrest ih =>
    rw [addParameter, addParameter, hkey hfirst.2, hkey hsame]
    split_ifs
    · exact .cons ⟨hrefs, hsame⟩ hrest
    · exact .cons hfirst ih

theorem sameParameters_foldl_addParameter {parameters parameters' known known' : List Document}
    (hparameters : SameParameters spec other parameters parameters')
    (hknown : SameParameters spec other known known') :
    SameParameters spec other (parameters.foldl addParameter known)
      (parameters'.foldl addParameter known') := by
  induction hparameters generalizing known known' with
  | nil => exact hknown
  | cons hfirst _ ih => exact ih (sameParameters_addParameter hknown hfirst.1 hfirst.2)

/-- An operation in one description and the same operation in another, where its texts and those of
its parameters may differ. -/
structure SameOperation (spec other : Spec) (op op' : Operation) : Prop where
  path : op.path = op'.path
  method : op.method = op'.method
  operationId : op.operationId? = op'.operationId?
  requestBody : op.requestBody? = op'.requestBody?
  requestBodyRefs : ∀ body, op.requestBody? = some body → RefsIn (AgreeOn spec other) body
  parameters : SameParameters spec other (spec.declaredParameters op) (other.declaredParameters op')

variable {op op' : Operation}

theorem bodyArguments_eq (hroot : RefsIn (AgreeOn spec other) spec.root)
    (h : SameOperation spec other op op') : spec.bodyArguments op = other.bodyArguments op' := by
  unfold bodyArguments
  rw [← h.requestBody]
  cases hbody : op.requestBody? with
  | none => rfl
  | some body =>
    have hrefs := h.requestBodyRefs body hbody
    have hresolved := refsIn_resolve hroot hrefs
    dsimp only
    rw [← resolve_eq hroot hrefs]
    cases hschema : bodySchema? (spec.resolve body) with
    | none => rfl
    | some schema =>
      exact flatten_eq hroot (refsIn_bodySchema hresolved hschema) (Nat.zero_le _)

theorem toolName_eq (h : SameOperation spec other op op') : toolName op = toolName op' := by
  unfold toolName
  rw [h.operationId, h.method, h.path]

/-- An argument is required or not whatever its description says. -/
theorem map_withoutText_requiredFirst (arguments : List Argument) :
    (requiredFirst arguments).map Argument.withoutText
      = requiredFirst (arguments.map Argument.withoutText) := by
  unfold requiredFirst
  rw [List.map_append, List.filter_map, List.filter_map]
  rfl

/-- The same operation has the same tool in both descriptions, up to the texts. -/
theorem tool?_eq (hroot : RefsIn (AgreeOn spec other) spec.root)
    (h : SameOperation spec other op op') :
    (spec.tool? op).map Tool.withoutTexts = (other.tool? op').map Tool.withoutTexts := by
  have hmerged := sameParameters_foldl_addParameter h.parameters List.Forall₂.nil
  have hparts := foldlM_addToolParameter_eq hroot hmerged
    (congrArg (fun path => ToolParts.withoutTexts ⟨[], path⟩) h.path)
  change Option.map _ ((spec.mergedParameters op).foldlM _ _)
    = Option.map _ ((other.mergedParameters op').foldlM _ _) at hparts
  unfold tool?
  rw [bodyArguments_eq hroot h, toolName_eq h, h.operationId, h.method, h.path]
  rw [h.path] at hparts
  refine map_bind_eq hparts fun parts parts' hsame => ?_
  rw [ToolParts.withoutTexts_eq_iff] at hsame
  cases other.bodyArguments op' with
  | none => rfl
  | some body =>
    have harguments : (requiredFirst (parts.arguments ++ body)).map Argument.withoutText
        = (requiredFirst (parts'.arguments ++ body)).map Argument.withoutText := by
      rw [map_withoutText_requiredFirst, map_withoutText_requiredFirst, List.map_append,
        List.map_append, hsame.1]
    refine congrArg some ?_
    unfold Tool.withoutTexts
    simp only [harguments, hsame.2]

end Spec

end ApiTools
