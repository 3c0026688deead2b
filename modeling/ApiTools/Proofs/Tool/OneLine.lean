import ApiTools.Project.View
import ApiTools.Proofs.Template.Lines
import ApiTools.Proofs.Tool.Arguments

/-!
# Tools that are written in lines of the template

The values that a tool gives to its template are of one line when the texts of the description are
that stand for themselves there: paths, summaries and descriptions, and the names of parameters and
of properties (`Spec.HasOneLineTexts`).  All other texts are quoted, collapsed, or brought to
characters of identifiers first (`Tool.IsOneLine.values`).
-/

namespace ApiTools

open Text

/-! ### Type hints -/

theorem Literal.isOneLine_render (literal : Literal) : IsOneLine literal.render := by
  cases literal with
  | none => decide
  | bool b => cases b <;> decide
  | number n => exact n.isOneLine_json
  | text s => exact Quoted.isOneLine_encode s

theorem TypeHint.isOneLine_render (hint : TypeHint) : IsOneLine hint.render := by
  induction hint with
  | list item ih =>
    rw [render, isOneLine_append, isOneLine_append]
    exact ⟨⟨by decide, ih⟩, by decide⟩
  | literal values =>
    have hvalues : IsOneLine (join ", " (values.map Literal.render)) := by
      refine isOneLine_join (by decide) fun part hpart => ?_
      obtain ⟨value, -, rfl⟩ := List.mem_map.mp hpart
      exact value.isOneLine_render
    rw [render, isOneLine_append, isOneLine_append]
    exact ⟨⟨by decide, hvalues⟩, by decide⟩
  | _ => decide

/-! ### Arguments -/

namespace Argument

variable {a : Argument}

/-- Are the texts of the argument that are written as they are of one line? -/
structure IsOneLine (a : Argument) : Prop where
  name : Text.IsOneLine a.name
  keys : ∀ key ∈ a.keys, Text.IsOneLine key
  default : ∀ expression ∈ a.default?, Text.IsOneLine expression

namespace IsOneLine

theorem key (h : a.IsOneLine) : Text.IsOneLine a.key := isOneLine_join (by decide) h.keys

theorem signature (h : a.IsOneLine) : Text.IsOneLine a.signature := by
  have hhint := a.hint.isOneLine_render
  have hcolon : Text.IsOneLine ": " := by decide
  have hequals : Text.IsOneLine " = " := by decide
  unfold Argument.signature
  split
  · next expression hexpression =>
    simp only [isOneLine_append]
    exact ⟨⟨⟨⟨h.name, hcolon⟩, hhint⟩, hequals⟩, h.default expression hexpression⟩
  · simp only [isOneLine_append]
    exact ⟨⟨h.name, hcolon⟩, hhint⟩

theorem summary (h : a.IsOneLine) : Text.IsOneLine a.summary := by
  have hbetween : ∀ lead : String, Text.IsOneLine lead →
      Text.IsOneLine (lead ++ a.key ++ "'") := by
    intro lead hlead
    rw [isOneLine_append, isOneLine_append]
    exact ⟨⟨hlead, h.key⟩, by decide⟩
  unfold Argument.summary
  by_cases hblank : (!isBlankText a.description) = true
  · rw [if_pos hblank]
    exact isOneLine_collapse _
  · rw [if_neg hblank]
    cases a.location with
    | path => exact hbetween _ (by decide)
    | query => exact hbetween _ (by decide)
    | body =>
      dsimp only
      split_ifs
      · decide
      · exact hbetween _ (by decide)

theorem infoValues (h : a.IsOneLine) : a.infoValues.IsOneLine := by
  unfold Argument.infoValues
  simp only [Document.isOneLine_object, List.forall_mem_cons, Document.isOneLine_text]
  exact ⟨h.name, a.hint.isOneLine_render, h.summary, fun _ hnone => absurd hnone List.not_mem_nil⟩

theorem queryValues (h : a.IsOneLine) : a.queryValues.IsOneLine := by
  unfold Argument.queryValues
  simp only [Document.isOneLine_object, List.forall_mem_cons, Document.isOneLine_text]
  exact ⟨h.name, h.key, Document.isOneLine_bool _, Document.isOneLine_bool _,
    fun _ hnone => absurd hnone List.not_mem_nil⟩

theorem bodyValues (h : a.IsOneLine) : a.bodyValues.IsOneLine := by
  unfold Argument.bodyValues
  simp only [Document.isOneLine_object, List.forall_mem_cons, Document.isOneLine_text]
  exact ⟨h.name, h.key, fun _ hnone => absurd hnone List.not_mem_nil⟩

end IsOneLine

end Argument

/-! ### Descriptions -/

namespace Spec

variable {spec : Spec} {op : Operation} {schema : Document} {place : BodyPlace}
  {arguments : List Argument}

/-- The schemas that give an operation its arguments. -/
inductive IsArgumentSchema (spec : Spec) (op : Operation) : Document → Prop
  | parameter {parameter : Document} (h : parameter ∈ spec.declaredParameters op) :
    IsArgumentSchema spec op (parameterSchema parameter)
  | body {body schema : Document} (hbody : op.requestBody? = some body)
      (hschema : bodySchema? (spec.resolve body) = some schema) : IsArgumentSchema spec op schema
  | next {schema : Document} {depth : Nat} {state : Document × Nat}
      (h : IsArgumentSchema spec op schema) (hstate : state ∈ spec.continuations (schema, depth)) :
    IsArgumentSchema spec op state.1

/-- Are the texts of the description that are written as they are of one line? -/
structure HasOneLineTexts (spec : Spec) : Prop where
  path : ∀ op ∈ spec.operations, IsOneLine op.path
  summary : ∀ op ∈ spec.operations, ∀ s ∈ op.summary?, IsOneLine s
  description : ∀ op ∈ spec.operations, ∀ s ∈ op.description?, IsOneLine s
  parameter : ∀ op ∈ spec.operations, ∀ parameter ∈ spec.declaredParameters op,
    ∀ name ∈ parameter.getText? "name", IsOneLine name
  property : ∀ op ∈ spec.operations, ∀ schema, spec.IsArgumentSchema op schema →
    ∀ properties ∈ (spec.resolve schema).getMembers? "properties",
      ∀ entry ∈ properties, IsOneLine entry.1

/-! ### Arguments of a body -/

/-- Are the names that lead to the place of one line? -/
structure BodyPlace.IsOneLine (place : BodyPlace) : Prop where
  name : Text.IsOneLine place.name
  keys : ∀ key ∈ place.keys, Text.IsOneLine key

namespace BodyPlace.IsOneLine

theorem root (required : Bool) (description : String) :
    (BodyPlace.root required description).IsOneLine where
  name := show Text.IsOneLine "body" by decide
  keys _ hnone := absurd hnone List.not_mem_nil

theorem describe (h : place.IsOneLine) (schema : Document) : (place.describe schema).IsOneLine := by
  unfold BodyPlace.describe
  split
  · exact h
  · exact ⟨h.name, h.keys⟩

theorem property (h : place.IsOneLine) {name : String} (hname : Text.IsOneLine name)
    (required : Bool) : (place.property name required).IsOneLine := by
  have hseparator : Text.IsOneLine (if place.keys.isEmpty then "_" else "__") := by
    split_ifs <;> decide
  refine ⟨?_, ?_⟩
  · unfold BodyPlace.property
    rw [isOneLine_append, isOneLine_append]
    exact ⟨⟨h.name, hseparator⟩, Naming.isOneLine_identifier name⟩
  · exact List.forall_mem_append.mpr ⟨h.keys, List.forall_mem_singleton.mpr hname⟩

theorem argument (h : place.IsOneLine) (hint : TypeHint) : (place.argument hint).IsOneLine := by
  refine ⟨h.name, h.keys, fun expression hexpression => ?_⟩
  unfold BodyPlace.argument at hexpression
  dsimp only at hexpression
  split_ifs at hexpression
  · cases hexpression
  · cases hexpression
    decide

end BodyPlace.IsOneLine

/-- The arguments of a schema are of one line where the names of the properties are that flattening
comes to. -/
theorem isOneLine_of_mem_flattenWithin
    (hproperty : ∀ schema, spec.IsArgumentSchema op schema →
      ∀ properties ∈ (spec.resolve schema).getMembers? "properties",
        ∀ entry ∈ properties, IsOneLine entry.1)
    {steps : Nat} (hschema : spec.IsArgumentSchema op schema) (hplace : place.IsOneLine)
    (h : spec.flattenWithin steps schema place = some arguments) :
    ∀ a ∈ arguments, a.IsOneLine := by
  induction steps generalizing schema place arguments with
  | zero => cases h
  | succ steps ih =>
    have hdescribed := hplace.describe (spec.resolve schema)
    intro a ha
    rcases mem_flattenWithin_succ h ha with
      ⟨hint, rfl⟩ | ⟨next, depth, hstate, inner, found, hnext, hfound, ha⟩
    · exact hdescribed.argument hint
    · have hinner : inner.IsOneLine := by
        cases hnext with
        | own => exact hdescribed
        | branch => exact hdescribed
        | property hproperties hentry required =>
          exact hdescribed.property (hproperty schema hschema _ hproperties _ hentry) required
      exact ih (.next hschema hstate) hinner hfound a ha

end Spec

/-! ### Tools -/

/-- Are the arguments that were found so far and the path of one line? -/
structure ToolParts.IsOneLine (parts : ToolParts) : Prop where
  arguments : ∀ a ∈ parts.arguments, a.IsOneLine
  path : Text.IsOneLine parts.formattedPath

/-- Are the texts of the tool that are written as they are of one line? -/
structure Tool.IsOneLine (tool : Tool) : Prop where
  name : Text.IsOneLine tool.name
  httpPath : Text.IsOneLine tool.httpPath
  formattedPath : Text.IsOneLine tool.formattedPath
  arguments : ∀ a ∈ tool.arguments, a.IsOneLine
  summary : Text.IsOneLine tool.summary
  description : Text.IsOneLine tool.description

namespace Spec

variable {spec : Spec} {op : Operation} {tool : Tool}

theorem isOneLine_placeholder {name : String} (h : IsOneLine name) : IsOneLine (placeholder name) := by
  unfold placeholder
  rw [isOneLine_append, isOneLine_append]
  exact ⟨⟨by decide, h⟩, by decide⟩

theorem isOneLine_pathArgument {name : String} (h : IsOneLine name) (parameter : Document) :
    (spec.pathArgument name parameter).IsOneLine where
  name := isOneLine_append.mpr ⟨by decide, Naming.isOneLine_identifier name⟩
  keys := List.forall_mem_singleton.mpr h
  default _ hnone := nomatch hnone

theorem isOneLine_queryArgument {name : String} (h : IsOneLine name) (parameter : Document) :
    (spec.queryArgument name parameter).IsOneLine where
  name := isOneLine_append.mpr ⟨by decide, Naming.isOneLine_identifier name⟩
  keys := List.forall_mem_singleton.mpr h
  default expression hexpression := by
    unfold queryArgument at hexpression
    dsimp only at hexpression
    split_ifs at hexpression
    · cases hexpression
    · cases hexpression
      decide
    · cases hexpression
      decide

/-- One more parameter leaves the parts of a tool in their lines. -/
theorem isOneLine_addToolParameter (h : spec.HasOneLineTexts) (hop : op ∈ spec.operations)
    {parameter : Document} (hparameter : parameter ∈ spec.declaredParameters op)
    {parts after : ToolParts} (hparts : parts.IsOneLine)
    (hafter : spec.addToolParameter parts parameter = some after) : after.IsOneLine := by
  rcases addToolParameter_cases hafter with
    ⟨rfl, -⟩ | ⟨name, hname, ⟨-, rfl⟩ | ⟨-, rfl⟩ | ⟨-, found, hfound, rfl⟩⟩
  · exact hparts
  · have hargument : (spec.pathArgument name parameter).IsOneLine :=
      isOneLine_pathArgument (h.parameter op hop parameter hparameter name hname) parameter
    refine ⟨List.forall_mem_append.mpr ⟨hparts.arguments, ?_⟩, ?_⟩
    · exact List.forall_mem_singleton.mpr hargument
    · exact hparts.path.replace _ (isOneLine_placeholder hargument.name)
  · have hargument : (spec.queryArgument name parameter).IsOneLine :=
      isOneLine_queryArgument (h.parameter op hop parameter hparameter name hname) parameter
    refine ⟨List.forall_mem_append.mpr ⟨hparts.arguments, ?_⟩, hparts.path⟩
    exact List.forall_mem_singleton.mpr hargument
  · refine ⟨List.forall_mem_append.mpr ⟨hparts.arguments, ?_⟩, hparts.path⟩
    exact isOneLine_of_mem_flattenWithin (h.property op hop) (.parameter hparameter)
      (.root _ _) hfound

theorem isOneLine_bodyArguments (h : spec.HasOneLineTexts) (hop : op ∈ spec.operations)
    {arguments : List Argument} (harguments : spec.bodyArguments op = some arguments) :
    ∀ a ∈ arguments, a.IsOneLine := by
  rcases bodyArguments_cases harguments with rfl | ⟨body, schema, hbody, hschema, hflatten⟩
  · exact fun _ hmem => absurd hmem List.not_mem_nil
  · exact isOneLine_of_mem_flattenWithin (h.property op hop) (.body hbody hschema) (.root _ _)
      hflatten

/-- The tool of an operation whose name is of one line. -/
theorem isOneLine_tool? (h : spec.HasOneLineTexts) (hop : op ∈ spec.operations)
    (hname : IsOneLine (toolName op)) (htool : spec.tool? op = some tool) : tool.IsOneLine := by
  have hpath := h.path op hop
  have hgiven : ∀ text? : Option String, (∀ s ∈ text?, IsOneLine s) →
      IsOneLine (Text.trim (text?.getD "")) := by
    intro text? htext
    refine IsOneLine.trim ?_
    cases text? with
    | none => decide
    | some s => exact htext s rfl
  obtain ⟨parts, body, hparts, hbody, rfl⟩ := exists_of_tool? htool
  have hline : parts.IsOneLine := by
    refine foldlM_addToolParameter_induct ?_ ⟨fun _ hmem => absurd hmem List.not_mem_nil, hpath⟩ hparts
    intro parameter hparameter parts after hparts hafter
    exact isOneLine_addToolParameter h hop (mem_mergedParameters hparameter) hparts hafter
  have hall := List.forall_mem_append.mpr ⟨hline.arguments, isOneLine_bodyArguments h hop hbody⟩
  exact ⟨hname, hpath, hline.path, fun a ha => hall a (mem_requiredFirst ha),
    hgiven _ (h.summary op hop), hgiven _ (h.description op hop)⟩

end Spec

/-! ### Values for templates -/

namespace Tool

variable {tool : Tool}

theorem isOneLine_upper (method : Method) : Text.IsOneLine method.upper := by
  cases method <;> decide

theorem IsOneLine.docstring (h : tool.IsOneLine) {written? : Option String}
    (hwritten : ∀ text ∈ written?, Text.IsOneLine text) : Text.IsOneLine (tool.docstring written?) := by
  unfold Tool.docstring
  rcases hfound : [tool.description, written?.getD "", tool.summary].find? (!Text.isBlankText ·)
    with _ | text
  · have hspace : Text.IsOneLine " " := by decide
    show Text.IsOneLine (tool.method.upper ++ " " ++ tool.httpPath)
    rw [isOneLine_append, isOneLine_append]
    exact ⟨⟨isOneLine_upper _, hspace⟩, h.httpPath⟩
  · have hmem := List.mem_of_find?_eq_some hfound
    simp only [List.mem_cons, List.not_mem_nil, or_false] at hmem
    rcases hmem with rfl | rfl | rfl
    · exact h.description
    · cases written? with
      | none => exact List.not_mem_nil
      | some text => exact hwritten text rfl
    · exact h.summary

theorem isOneLine_list_map {values : Argument → Document}
    (hvalues : ∀ {a : Argument}, a.IsOneLine → (values a).IsOneLine) {arguments : List Argument}
    (h : ∀ a ∈ arguments, a.IsOneLine) : (Document.list (arguments.map values)).IsOneLine := by
  rw [Document.isOneLine_list, List.forall_mem_map]
  exact fun a ha => hvalues (h a ha)

theorem IsOneLine.values (h : tool.IsOneLine) {written? : Option String}
    (hwritten : ∀ text ∈ written?, Text.IsOneLine text) : (tool.values written?).IsOneLine := by
  have hsignature : Text.IsOneLine (join ", " tool.signatures) := by
    refine isOneLine_join (by decide) fun part hpart => ?_
    obtain ⟨a, ha, rfl⟩ := List.mem_map.mp hpart
    exact (h.arguments a ha).signature
  have hfilter : ∀ p : Argument → Bool, ∀ a ∈ tool.arguments.filter p, a.IsOneLine :=
    fun p a ha => h.arguments a (List.mem_of_mem_filter ha)
  have hroot : ∀ name ∈ (tool.arguments.find? Argument.isWholeBody).map Argument.name,
      Text.IsOneLine name := by
    intro name hname
    obtain ⟨a, ha, rfl⟩ := Option.map_eq_some_iff.mp hname
    exact (h.arguments a (List.mem_of_find?_eq_some ha)).name
  unfold Tool.values
  simp only [Document.isOneLine_object, List.forall_mem_cons, Document.isOneLine_text]
  exact ⟨h.name, hsignature, h.docstring hwritten,
    isOneLine_list_map Argument.IsOneLine.infoValues h.arguments, isOneLine_upper _, h.httpPath,
    h.formattedPath, isOneLine_list_map Argument.IsOneLine.queryValues (hfilter _),
    isOneLine_list_map Argument.IsOneLine.bodyValues (hfilter _), .ofText? hroot,
    fun _ hnone => absurd hnone List.not_mem_nil⟩

end Tool

end ApiTools
