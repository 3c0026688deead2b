import ApiTools.Compliance.Check
import ApiTools.Proofs.Normalize.Frame
import ApiTools.Proofs.Spec.Operations
import ApiTools.Proofs.Spec.References

/-!
# Checks of normalized descriptions

Normalization and the checks go over the operations each in a way of its own, and have their own
notions of a parameter that is as it should be.  An operation of the normal form is an operation of
the description with its parameters fixed (`exists_of_mem_operations_normalize`).  Where a parameter
was written out, with a schema that tells its type or without one, it is in one of three states about
which nothing is found (`state_of_isNormal`); and no parameter is left that stands for a body
(`bodyParameterCount_normalize`).  `checks_normalize` puts both together.
-/

namespace ApiTools

/-! ### Operations of the normal form -/

namespace Normalize

variable {doc : Document} {op : Operation} {parameter : Document}

/-- An operation of the normal form stands at the path and the method of one of the description, and
is that one with its parameters fixed. -/
theorem exists_of_mem_operations_normalize (h : op ∈ Spec.operations ⟨(normalize doc).1⟩) :
    ∃ before ∈ Spec.operations ⟨doc⟩, op.path = before.path ∧ op.method = before.method ∧
      op.node = (fixOperation before.node).1 := by
  obtain ⟨hitem, hnode, hobject⟩ := Spec.mem_operations.mp h
  have hpaths : Spec.paths? ⟨(normalize doc).1⟩
      = (Spec.paths? ⟨doc⟩).map fun paths =>
          paths.map fun entry => (entry.1, (fixItem entry.2).1) := getMembers?_normalize doc
  rw [hpaths] at hitem
  cases hbefore : Spec.paths? ⟨doc⟩ with
  | none => simp [hbefore] at hitem
  | some paths =>
    rw [hbefore, Option.map_some, Option.getD_some, List.mem_map] at hitem
    obtain ⟨⟨path, item⟩, hentry, heq⟩ := hitem
    simp only [Prod.mk.injEq] at heq
    obtain ⟨hpath, hfixed⟩ := heq
    rw [← hfixed, get?_fixItem, Option.map_eq_some_iff] at hnode
    obtain ⟨node, hnode, hop⟩ := hnode
    refine ⟨⟨path, op.method, node, item⟩, ?_, hpath.symm, rfl, hop.symm⟩
    rw [Spec.mem_operations, hbefore]
    refine ⟨hentry, hnode, ?_⟩
    show node.isObject = true
    rw [← isObject_fixOperation, hop]
    exact hobject

/-- A parameter of the normal form is one of the description that stands for no body, fixed. -/
theorem exists_of_mem_parameters_normalize (h : op ∈ Spec.operations ⟨(normalize doc).1⟩)
    (hparameter : parameter ∈ op.parameters) :
    ∃ before ∈ Spec.operations ⟨doc⟩, ∃ p ∈ before.parameters, parameter = (fixParameter p).1 := by
  obtain ⟨before, hbefore, -, -, hnode⟩ := exists_of_mem_operations_normalize h
  unfold Operation.parameters at hparameter
  rw [hnode, getItems?_fixOperation] at hparameter
  cases hitems : before.node.getItems? "parameters" with
  | none => simp [hitems] at hparameter
  | some parameters =>
    rw [hitems, Option.map_some, Option.getD_some] at hparameter
    unfold fixParameters at hparameter
    simp only [List.map_map, List.mem_map, List.mem_filter] at hparameter
    obtain ⟨p, ⟨hp, -⟩, rfl⟩ := hparameter
    refine ⟨before, hbefore, p, ?_, rfl⟩
    unfold Operation.parameters
    rw [hitems]
    exact hp

end Normalize

namespace Compliance

open Normalize

/-! ### Parameters that are written out -/

/-- The parameter is an object that is no reference, and the schema that it has, if any, tells its
type. -/
structure IsWrittenOut (parameter : Document) : Prop where
  isObject : parameter.isObject = true
  noReference : parameter.has "$ref" = false
  typed : ∀ schema ∈ parameter.get? "schema",
    schema.isObject = true ∧ (schema.has "type" = true ∨ schema.has "$ref" = true)

instance (parameter : Document) : Decidable (IsWrittenOut parameter) :=
  decidable_of_iff
    (parameter.isObject = true ∧ parameter.has "$ref" = false ∧
      ∀ schema ∈ parameter.get? "schema",
        schema.isObject = true ∧ (schema.has "type" = true ∨ schema.has "$ref" = true))
    ⟨fun ⟨hobject, href, htyped⟩ => ⟨hobject, href, htyped⟩,
      fun h => ⟨h.isObject, h.noReference, h.typed⟩⟩

variable {parameter : Document}

/-- What is no reference is not followed anywhere. -/
theorem resolve_of_not_has (spec : Spec) (h : parameter.has "$ref" = false) :
    spec.resolve parameter = parameter := by
  have hget : parameter.get? "$ref" = none := by
    unfold Document.has at h
    rwa [Option.isSome_eq_false_iff, Option.isNone_iff_eq_none] at h
  have hnext : spec.next? parameter = none := by
    unfold Spec.next? Document.getText?
    rw [hget]
    rfl
  exact Spec.resolve_of_isEnd (Spec.isEnd_iff.mpr hnext)

/-- A parameter that was written out still is after it was fixed. -/
theorem IsWrittenOut.fixParameter (h : IsWrittenOut parameter) :
    IsWrittenOut (fixParameter parameter).1 := by
  have href : (Normalize.fixParameter parameter).1.has "$ref" = parameter.has "$ref" := by
    unfold Document.has
    rw [get?_fixParameter parameter (by decide) (by decide)]
  refine ⟨?_, href.trans h.noReference, ?_⟩
  · unfold Normalize.fixParameter
    split
    · split_ifs <;> rfl
    · exact h.isObject
  · intro schema hschema
    unfold Normalize.fixParameter at hschema
    split at hschema
    · next ms =>
      split_ifs at hschema with hlacks
      · -- The schema is the one that the name suggests.
        have hget : Members.get? (Members.erase
            (Members.set ms "schema" (suggestedSchema ms)) "type") "schema" = some schema := hschema
        rw [get?_fixed, if_neg (by decide), if_pos rfl, Option.some.injEq] at hget
        subst hget
        exact ⟨rfl, .inl rfl⟩
      · exact h.typed schema hschema
    · exact h.typed schema hschema

/-! ### What is found -/

/-- How a parameter says what it holds, where the checks find nothing to say about it. -/
def soundStates : List SchemaState := [.typed, .content, .cookie]

/-- A parameter in normal form that is written out has a schema that tells its type, or content, or
it is a cookie. -/
theorem state_of_isNormal (hnormal : IsNormalParameter parameter) (h : IsWrittenOut parameter) :
    SchemaState.ofParameter parameter ∈ soundStates := by
  obtain ⟨hobject, href, htyped⟩ := h
  cases parameter with
  | object ms =>
    have hcomplete := hnormal.cookie_or_typed ((Members.has_eq_false_iff ms "$ref").mp href)
    unfold SchemaState.ofParameter
    cases hschema : (Document.object ms).get? "schema" with
    | some schema =>
      have htype : (schema.has "type" || schema.has "$ref") = true := by
        simpa using (htyped schema hschema).2
      dsimp only
      rw [if_pos htype]
      decide
    | none =>
      dsimp only
      rcases hcomplete with hcookie | hsome | hcontent
      · rw [if_pos hcookie]
        split_ifs <;> decide
      · -- There is no schema in this case.
        have hnone : Members.get? ms "schema" = none := hschema
        rw [hnone] at hsome
        cases hsome
      · rw [if_pos (show (Document.object ms).has "content" = true from hcontent)]
        decide
  | _ => cases hobject

theorem isValid_of_mem_soundStates {state : SchemaState} (h : state ∈ soundStates) :
    state.isValid = true := by
  revert state
  decide

theorem findings_of_mem_soundStates {state : SchemaState} (h : state ∈ soundStates)
    (name place : String) : state.findings name place = {} := by
  cases state <;> first | rfl | exact absurd h (by decide)

theorem findingsFrom_eq_empty {uses : List ParameterUse}
    (h : ∀ use ∈ uses, use.state ∈ soundStates) (position : Nat) :
    ParameterUse.findingsFrom position uses = {} := by
  induction uses generalizing position with
  | nil => rfl
  | cons use rest ih =>
    have huse : use.findings position = {} :=
      findings_of_mem_soundStates (h use (List.mem_cons_self ..)) _ _
    have hrest := ih (fun other hother => h other (List.mem_cons_of_mem _ hother)) (position + 1)
    rw [ParameterUse.findingsFrom, huse, hrest]
    rfl

/-- Every parameter of the normal form says what it holds, where the parameters of the description
were written out. -/
theorem state_of_mem_all {spec : Spec}
    (h : ∀ op ∈ spec.operations, ∀ p ∈ op.parameters, IsWrittenOut p) {use : ParameterUse}
    (huse : use ∈ ParameterUse.all ⟨(normalize spec.root).1⟩) : use.state ∈ soundStates := by
  unfold ParameterUse.all at huse
  rw [List.mem_flatMap] at huse
  obtain ⟨op, hop, huse⟩ := huse
  obtain ⟨parameter, hparameter, rfl⟩ := List.mem_map.mp huse
  obtain ⟨before, hbefore, p, hp, rfl⟩ := exists_of_mem_parameters_normalize hop hparameter
  have hwritten := (h before hbefore p hp).fixParameter
  have hnormal := (isNormal_normalize spec.root).parameter hop hparameter
  show SchemaState.ofParameter (Spec.resolve _ (fixParameter p).1) ∈ soundStates
  rw [resolve_of_not_has _ hwritten.noReference]
  exact state_of_isNormal hnormal hwritten

/-! ### Body parameters -/

/-- No parameter of the normal form stands for a body. -/
theorem bodyParameterCount_normalize {doc : Document} {op : Operation}
    (h : op ∈ Spec.operations ⟨(normalize doc).1⟩) : bodyParameterCount op = 0 := by
  unfold bodyParameterCount
  rw [List.countP_eq_zero]
  intro p hp hbody
  have hnormal := ((isNormal_normalize doc).parameter h hp).notBody
  unfold Normalize.isBodyParameter at hnormal
  rw [beq_eq_false_iff_ne] at hnormal
  exact hnormal (of_decide_eq_true hbody)

theorem total_eq_zero {counts : List Nat} (h : ∀ n ∈ counts, n = 0) : total counts = 0 := by
  induction counts with
  | nil => rfl
  | cons n rest ih =>
    have hrest := ih fun m hm => h m (List.mem_cons_of_mem _ hm)
    have hn := h n (List.mem_cons_self ..)
    show n + total rest = 0
    omega

theorem total_bodyParameterCount_normalize (doc : Document) :
    total ((Spec.operations ⟨(normalize doc).1⟩).map bodyParameterCount) = 0 := by
  apply total_eq_zero
  intro n hn
  obtain ⟨op, hop, rfl⟩ := List.mem_map.mp hn
  exact bodyParameterCount_normalize hop

/-! ### Main theorem -/

/-- After normalization all parameters are valid and nothing is found about them, where they were
written out; and all body parameters count as converted, whatever the description was like. -/
theorem checks_normalize (thresholds : Thresholds) (spec : Spec) :
    let enhanced : Spec := ⟨(normalize spec.root).1⟩
    let parameters := parametersCheck thresholds enhanced
    let bodies := bodyParametersCheck thresholds spec enhanced
    ((∀ op ∈ spec.operations, ∀ p ∈ op.parameters, IsWrittenOut p) →
      Members.get? parameters.details "invalid_parameters" = some (.ofNat 0) ∧
        parameters.errors = [] ∧ parameters.warnings = []) ∧
      (Members.get? bodies.details "remaining_body_params" = some (.ofNat 0) ∧
        Members.get? bodies.details "converted_body_params"
          = Members.get? bodies.details "original_body_params" ∧
        bodies.errors = []) := by
  intro enhanced parameters bodies
  refine ⟨fun h => ?_, ?_⟩
  · have hsound : ∀ use ∈ ParameterUse.all enhanced, use.state ∈ soundStates :=
      fun use huse => state_of_mem_all h huse
    have hfindings := findingsFrom_eq_empty hsound 1
    have hvalid : (ParameterUse.all enhanced).countP (·.state.isValid)
        = (ParameterUse.all enhanced).length :=
      List.countP_eq_length.mpr fun use huse => isValid_of_mem_soundStates (hsound use huse)
    refine ⟨?_, congrArg Findings.errors hfindings, congrArg Findings.warnings hfindings⟩
    show some (Document.ofNat (_ - (ParameterUse.all enhanced).countP (·.state.isValid))) = _
    rw [hvalid, Nat.sub_self]
  · have hremaining := total_bodyParameterCount_normalize spec.root
    refine ⟨?_, ?_, ?_⟩
    · show some (Document.ofNat (total (enhanced.operations.map bodyParameterCount))) = _
      rw [hremaining]
    · show some (Document.ofNat (_ - total (enhanced.operations.map bodyParameterCount))) = _
      rw [hremaining, Nat.sub_zero]
      rfl
    · show (enhanced.operations.flatMap fun op => List.replicate (bodyParameterCount op) _) = []
      rw [List.flatMap_eq_nil_iff]
      intro op hop
      rw [bodyParameterCount_normalize hop]
      rfl

/-- A description of format 2.0 with every kind of parameter: of a type of its own, with a schema
that is a reference, with content, a cookie, and one that stands for a body. -/
def ordersSpec : Spec := ⟨.object [("swagger", .text "2.0"), ("paths", .object [
  ("/orders", .object [("post", .object [("parameters", .list [
    .object [("name", .text "limit"), ("in", .text "query"), ("type", .text "integer")],
    .object [("name", .text "order"), ("in", .text "body"), ("schema", .object
      [("$ref", .text "#/definitions/Order")])],
    .object [("name", .text "filter"), ("in", .text "query"), ("content", .object [])],
    .object [("name", .text "session"), ("in", .text "cookie"), ("type", .text "string")],
    .object [("name", .text "sort"), ("in", .text "query"), ("schema", .object
      [("$ref", .text "#/definitions/Sort")])]])])])])]⟩

/-- Four parameters are left, all of them valid, and the body parameter is converted. -/
theorem checks_normalize_ordersSpec :
    (∀ op ∈ ordersSpec.operations, ∀ p ∈ op.parameters, IsWrittenOut p) ∧
      let enhanced : Spec := ⟨(normalize ordersSpec.root).1⟩
      (ParameterUse.all enhanced).length = 4 ∧
        (parametersCheck {} enhanced).errors = [] ∧ (parametersCheck {} enhanced).warnings = [] ∧
        Members.get? (bodyParametersCheck {} ordersSpec enhanced).details "converted_body_params"
          = some (.ofNat 1) := by
  have hwritten : ∀ op ∈ ordersSpec.operations, ∀ p ∈ op.parameters, IsWrittenOut p := by decide
  obtain ⟨hparameters, -, hconverted, -⟩ := checks_normalize {} ordersSpec
  obtain ⟨-, herrors, hwarnings⟩ := hparameters hwritten
  refine ⟨hwritten, by decide +kernel, herrors, hwarnings, ?_⟩
  rw [hconverted]
  rfl

end Compliance

end ApiTools
