import ApiTools.Proofs.Normalize.Redescribed
import ApiTools.Proofs.Normalize.References
import ApiTools.Proofs.Overlay.Redescribed
import ApiTools.Proofs.Tool.Agreement

/-!
# Tools of an enhanced description

A description is enhanced by the overlay that is generated for it, and then normalized.  Up to the
texts it gives the same tools as without the overlay (`tools_enhanced`), where references lead below
the components: the two normal forms agree there (`agreeOn_of_isBelowComponents`), and beside that
they differ in texts that no tool is made from (`sameOperation`).  A reference that leads elsewhere
may come to lead to a text of the overlay (`not_tools_enhanced`).
-/

namespace ApiTools.Spec

open Document

/-! ### References below the components -/

/-- The reference leads below the components, or below the definitions of format 2.0. -/
def IsBelowComponents (reference : String) : Prop :=
  "#/components/".toList <+: reference.toList ∨ "#/definitions/".toList <+: reference.toList

instance : DecidablePred IsBelowComponents := fun reference =>
  inferInstanceAs (Decidable ("#/components/".toList <+: reference.toList ∨
    "#/definitions/".toList <+: reference.toList))

variable {spec other : Spec}

theorem child?_components (doc : Document) :
    child? doc (unescapeToken "components".toList) = doc.get? "components" := by
  cases doc <;> rfl

theorem child?_definitions (doc : Document) :
    child? doc (unescapeToken "definitions".toList) = doc.get? "definitions" := by
  cases doc <;> rfl

theorem agreeOn_of_isBelowComponents
    (hcomponents : spec.root.get? "components" = other.root.get? "components")
    (hdefinitions : spec.root.get? "definitions" = other.root.get? "definitions")
    {reference : String} (h : IsBelowComponents reference) : AgreeOn spec other reference := by
  unfold AgreeOn target?
  rcases h with ⟨rest, hrest⟩ | ⟨rest, hrest⟩
  · rw [← hrest]
    show (child? spec.root (unescapeToken "components".toList)).bind _
      = (child? other.root (unescapeToken "components".toList)).bind _
    rw [child?_components, child?_components, hcomponents]
  · rw [← hrest]
    show (child? spec.root (unescapeToken "definitions".toList)).bind _
      = (child? other.root (unescapeToken "definitions".toList)).bind _
    rw [child?_definitions, child?_definitions, hdefinitions]

/-! ### Operations -/

variable {op op' : Operation} {before after : Document}

theorem sameParameter_of_redescribed (h : ParameterRedescribed before after)
    (hbody : before.getText? "in" ≠ some "body") : SameParameter before after := by
  cases h with
  | unchanged => exact .refl before
  | @described ms ns h =>
    have htext : ∀ key, key ≠ "description" →
        (Document.object ms).getText? key = (Document.object ns).getText? key := fun key hkey =>
      getText?_congr (h key hkey)
    exact ⟨htext "name" (by decide), htext "in" (by decide), .inr h, fun heq => absurd heq hbody⟩
  | @created ns h =>
    have htext : ∀ key ∈ ["$ref", "name", "in"],
        Document.null.getText? key = (Document.object ns).getText? key := by
      intro key hkey
      have hget : Document.null.get? key = (Document.object ns).get? key := (h key hkey).symm
      exact getText?_congr hget
    exact ⟨htext "name" (by decide), htext "in" (by decide), .inl rfl, fun heq => absurd heq hbody⟩

/-- A redescribed parameter is resolved to the same, or to itself. -/
theorem sameParameter_resolve (hroot : RefsIn (AgreeOn spec other) spec.root)
    (hrefs : RefsIn (AgreeOn spec other) before) (h : ParameterRedescribed before after)
    (hbody : before.getText? "in" ≠ some "body") :
    SameParameter (spec.resolve before) (other.resolve after) := by
  have href : before.getText? "$ref" = after.getText? "$ref" :=
    getText?_congr (Normalize.get?_of_parameterRedescribed h (by decide))
  rcases resolve_eq_or hroot hrefs href with heq | ⟨hbefore, hafter⟩
  · rw [heq]
    exact .refl _
  · rw [hbefore, hafter]
    exact sameParameter_of_redescribed h hbody

theorem sameParameters_resolve (hroot : RefsIn (AgreeOn spec other) spec.root)
    {parameters parameters' : List Document}
    (h : List.Forall₂ ParameterRedescribed parameters parameters')
    (hrefs : ∀ p ∈ parameters, RefsIn (AgreeOn spec other) p)
    (hbody : ∀ p ∈ parameters, p.getText? "in" ≠ some "body") :
    SameParameters spec other (parameters.map spec.resolve) (parameters'.map other.resolve) := by
  induction h with
  | nil => exact .nil
  | cons hfirst _ ih =>
    rw [List.forall_mem_cons] at hrefs hbody
    exact .cons ⟨refsIn_resolve hroot hrefs.1, sameParameter_resolve hroot hrefs.1 hfirst hbody.1⟩
      (ih hrefs.2 hbody.2)

/-- A path item with an operation is part of the description. -/
theorem refsIn_pathItem {P : String → Prop} (hroot : RefsIn P spec.root)
    (hop : op ∈ spec.operations) : RefsIn P op.pathItem := by
  have hmem := (mem_operations.mp hop).1
  cases hpaths : spec.paths? with
  | none => simp [hpaths] at hmem
  | some paths =>
    rw [hpaths] at hmem
    exact hroot.of_part (mem_parts_of_getMembers? hpaths hmem)

theorem not_isMethodKey_parameters : ¬ IsMethodKey "parameters" := by
  rintro ⟨method, hmethod⟩
  cases method <;> exact absurd hmethod (by decide)

/-- A redescribed operation is the same operation, where it has no body parameter. -/
theorem sameOperation (hroot : RefsIn (AgreeOn spec other) spec.root) (hop : op ∈ spec.operations)
    (h : op.Redescribed op') (hbody : ∀ p ∈ op.parameters, p.getText? "in" ≠ some "body") :
    SameOperation spec other op op' := by
  have hitem := refsIn_pathItem hroot hop
  have hoperation := hitem.get? (mem_operations.mp hop).2.1
  have hshared : op.pathItem.getItems? "parameters" = op'.pathItem.getItems? "parameters" :=
    getItems?_congr (h.pathItem.others _ not_isMethodKey_parameters)
  refine ⟨h.path, h.method, ?_, h.node.others _ (by decide), fun body => hoperation.get?, ?_⟩
  · exact getText?_congr (h.node.others _ (by decide))
  · unfold SameParameters declaredParameters
    rw [← hshared, List.map_append, List.map_append]
    refine List.rel_append ?_ ?_
    · -- The parameters that are declared for the path are equal.
      rw [List.forall₂_map_left_iff, List.forall₂_map_right_iff]
      refine List.forall₂_same.mpr fun p hp => ?_
      have hrefs := refsIn_list.mp (hitem.itemsAt "parameters") p hp
      rw [← resolve_eq hroot hrefs]
      exact ⟨refsIn_resolve hroot hrefs, .refl _⟩
    · exact sameParameters_resolve hroot h.node.parameters
        (refsIn_list.mp (hoperation.itemsAt "parameters")) hbody

/-! ### The enhanced description -/

/-- The description in normal form. -/
def normalized (spec : Spec) : Spec := ⟨(normalize spec.root).1⟩

/-- The description with the overlay applied that is generated for it, in normal form. -/
def enhanced (settings : OverlaySettings) (assistant? : Option Assistant) (spec : Spec) : Spec :=
  normalized ⟨((Overlay.generate settings assistant? spec).overlay.apply spec.root).1⟩

variable (settings : OverlaySettings) (assistant? : Option Assistant)

/-- References that lead below the components, or to nothing, lead to the same in the normal forms
of two descriptions that differ in texts. -/
theorem agreeOn_normalized (hdiffer : OperationsDiffer OperationRedescribed spec.root other.root)
    {reference : String} (h : (spec.normalized.target? reference).isSome ∨
      (other.normalized.target? reference).isSome → IsBelowComponents reference) :
    AgreeOn spec.normalized other.normalized reference := by
  by_cases hresolves : (spec.normalized.target? reference).isSome ∨
      (other.normalized.target? reference).isSome
  · have hget : ∀ key, key ≠ "paths" → key ≠ "servers" →
        spec.normalized.root.get? key = other.normalized.root.get? key := fun _ =>
      Normalize.get?_normalize_eq hdiffer
    exact agreeOn_of_isBelowComponents (hget _ (by decide) (by decide))
      (hget _ (by decide) (by decide)) (h hresolves)
  · rw [not_or, Option.not_isSome_iff_eq_none, Option.not_isSome_iff_eq_none] at hresolves
    exact hresolves.1.trans hresolves.2.symm

/-- The normal forms of two descriptions that differ in texts give the same tools, where references
lead below the components or to nothing. -/
theorem tools_normalized_eq (hdiffer : OperationsDiffer OperationRedescribed spec.root other.root)
    (hrefs : RefsIn (fun reference => (spec.normalized.target? reference).isSome ∨
      (other.normalized.target? reference).isSome → IsBelowComponents reference) spec.root) :
    spec.normalized.operations.map (fun op =>
        (op.path, op.method, (spec.normalized.tool? op).map Tool.withoutTexts))
      = other.normalized.operations.map (fun op =>
        (op.path, op.method, (other.normalized.tool? op).map Tool.withoutTexts)) := by
  have hroot : RefsIn (AgreeOn spec.normalized other.normalized) spec.normalized.root :=
    (Normalize.refsIn_normalize hrefs).mono fun _ => agreeOn_normalized hdiffer
  have hoperations : List.Forall₂ Operation.Redescribed spec.normalized.operations
      other.normalized.operations :=
    forall₂_operations (Normalize.pathsRedescribed_normalize hdiffer)
  have hmembers := (List.forall₂_and_left _ _).mpr
    ⟨fun op (hop : op ∈ spec.normalized.operations) => hop, hoperations⟩
  rw [← List.forall₂_eq_eq_eq, List.forall₂_map_left_iff, List.forall₂_map_right_iff]
  refine hmembers.imp fun op op' ⟨hop, hredescribed⟩ => ?_
  have hbody : ∀ p ∈ op.parameters, p.getText? "in" ≠ some "body" := by
    intro p hp
    have hnormal := ((Normalize.isNormal_normalize spec.root).parameter hop hp).notBody
    simpa [Normalize.isBodyParameter] using hnormal
  have hsame := sameOperation hroot hop hredescribed hbody
  rw [tool?_eq hroot hsame, hsame.path, hsame.method]

/-- An enhanced description has the operations of the description in the same order, and each of
them gives the same tool up to the texts, or none in both.  References that lead to something, with
the overlay or without it, have to lead below the components.  That positions can be written is no
condition on descriptions that fit into memory. -/
theorem tools_enhanced (spec : Spec) (distinct : spec.HasDistinctPaths)
    (hpaths : ∀ op ∈ spec.operations, '\\' ∉ op.path.toList)
    (hpositions : ∀ op ∈ spec.operations, op.parameters.length ≤ maxPosition)
    (hrefs : ∀ reference ∈ spec.root.references,
      (spec.normalized.target? reference).isSome ∨
        ((spec.enhanced settings assistant?).target? reference).isSome →
      IsBelowComponents reference) :
    spec.normalized.operations.map (fun op =>
        (op.path, op.method, (spec.normalized.tool? op).map Tool.withoutTexts))
      = (spec.enhanced settings assistant?).operations.map (fun op => (op.path, op.method,
        ((spec.enhanced settings assistant?).tool? op).map Tool.withoutTexts)) := by
  have hdiffer := Overlay.operationsDiffer_generate settings assistant? distinct hpaths hpositions
  exact tools_normalized_eq hdiffer (refsIn_iff.mpr hrefs)

/-- A description with parameters of several kinds and a body that is a reference. -/
def petsSpec : Spec := ⟨.object [
  ("paths", .object [("/pets", .object [("post", .object [
    ("parameters", .list [.object [("name", .text "limit"), ("in", .text "query")], .null]),
    ("requestBody", .object [("content", .object [("application/json", .object [
      ("schema", .object [("$ref", .text "#/components/schemas/Pet")])])])])])])]),
  ("components", .object [("schemas", .object [("Pet", .object [("type", .text "object"),
    ("properties", .object [("name", .object [("type", .text "string")])])])])])]⟩

/-- In this description the overlay makes an object of the parameter that is null, and the tool
keeps its two arguments. -/
theorem tools_enhanced_petsSpec :
    (petsSpec.HasDistinctPaths ∧ (∀ op ∈ petsSpec.operations, '\\' ∉ op.path.toList) ∧
      (∀ op ∈ petsSpec.operations, op.parameters.length ≤ maxPosition) ∧
      ∀ reference ∈ petsSpec.root.references, IsBelowComponents reference) ∧
    petsSpec.normalized.operations.map (fun op =>
        (op.path, op.method, (petsSpec.normalized.tool? op).map Tool.withoutTexts))
      = (petsSpec.enhanced {} none).operations.map (fun op =>
        (op.path, op.method, ((petsSpec.enhanced {} none).tool? op).map Tool.withoutTexts)) ∧
    (petsSpec.enhanced {} none).tools?.map (List.map Tool.signatures)
      = some [["param_limit: int = None", "body_name: str = None"]] := by
  have hdistinct : petsSpec.HasDistinctPaths := by decide
  have hpaths : ∀ op ∈ petsSpec.operations, '\\' ∉ op.path.toList := by decide
  have hpositions : ∀ op ∈ petsSpec.operations, op.parameters.length ≤ maxPosition := by decide
  have hrefs : ∀ reference ∈ petsSpec.root.references, IsBelowComponents reference := by decide
  refine ⟨⟨hdistinct, hpaths, hpositions, hrefs⟩, ?_, by decide +kernel⟩
  exact tools_enhanced {} none petsSpec hdistinct hpaths hpositions
    fun reference hreference _ => hrefs reference hreference

/-- A description with a parameter that refers to the description of its operation, which is
missing. -/
def danglingSpec : Spec := ⟨.object [("paths", .object [("/a", .object [("put", .object [
  ("parameters", .list [.object [("$ref", .text "#/paths/~1a/put/description"),
    ("name", .text "q"), ("in", .text "query")]])])])])]⟩

/-- It is not enough that the references which lead to something without the overlay lead below the
components: a parameter may refer to a text that the overlay creates. -/
theorem not_tools_enhanced :
    ¬ ∀ (settings : OverlaySettings) (assistant? : Option Assistant) (spec : Spec),
      spec.HasDistinctPaths → (∀ op ∈ spec.operations, '\\' ∉ op.path.toList) →
      (∀ op ∈ spec.operations, op.parameters.length ≤ maxPosition) →
      (∀ reference ∈ spec.root.references,
        (spec.target? reference).isSome ∨ (spec.normalized.target? reference).isSome →
          IsBelowComponents reference) →
      spec.normalized.operations.map (fun op =>
          (op.path, op.method, (spec.normalized.tool? op).map Tool.withoutTexts))
        = (spec.enhanced settings assistant?).operations.map (fun op => (op.path, op.method,
          ((spec.enhanced settings assistant?).tool? op).map Tool.withoutTexts)) := by
  intro h
  have hdangling := h {} none danglingSpec (by decide) (by decide) (by decide) (by decide)
  -- The parameter gives an argument without the overlay only.
  have hcounts := congrArg (List.map fun entry => entry.2.2.map fun tool => tool.arguments.length)
    hdangling
  revert hcounts
  decide +kernel

end ApiTools.Spec
