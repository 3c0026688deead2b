import ApiTools.Proofs.Tool.BodyKeys

/-!
# The order and the names of arguments

The arguments of a tool are those that its parameters and its request body give, one after the other
(`Spec.metArguments`), with the ones that must be given put first; otherwise they keep their order.
Each is named after what it stands for.  For a part of a body the name goes on with each property on
the way, as the place does in which the part stands: `bodyName_append_singleton` is the step, and
`exists_place_of_mem_flattenWithin` the run over the schemas.  All of it is said about the arguments
of a tool in `Spec.arguments_ordered_and_named`.
-/

namespace ApiTools

namespace Argument

variable {a : Argument}

/-- The expression for an argument that is left out: a flag in the query is false then. -/
def absentValue (a : Argument) : String :=
  if a.location = .query ∧ a.hint = .bool then "False" else "None"

/-- The signature is made of the name and the type hint, and of the value that stands for the
argument where it may be left out. -/
def HasSignature (a : Argument) : Prop :=
  (a.isRequired = true ∧ a.signature = a.name ++ ": " ++ a.hint.render) ∨
    (a.default? = some a.absentValue ∧
      a.signature = a.name ++ ": " ++ a.hint.render ++ " = " ++ a.absentValue)

theorem hasSignature_of_default? (h : a.default? = none ∨ a.default? = some a.absentValue) :
    a.HasSignature := by
  unfold HasSignature isRequired signature
  rcases h with h | h
  · rw [h]
    exact .inl ⟨rfl, rfl⟩
  · rw [h]
    exact .inr ⟨rfl, rfl⟩

end Argument

namespace Spec

variable {spec : Spec} {op : Operation} {tool : Tool} {schema parameter : Document}
  {place : BodyPlace} {arguments : List Argument} {a : Argument} {steps : Nat}

/-! ### Arguments in the order in which they are met -/

/-- The arguments that a parameter gives. -/
def parameterArguments (spec : Spec) (parameter : Document) : Option (List Argument) :=
  match parameter.getText? "name" with
  | none => some []
  | some name =>
    match parameter.getText? "in" with
    | some "path" => some [spec.pathArgument name parameter]
    | some "query" => some [spec.queryArgument name parameter]
    | some "body" => spec.flatten (parameterSchema parameter)
        (.root (isRequiredParameter parameter) (parameter.trimmedText "description"))
    | _ => some []

/-- The arguments of an operation in the order in which they are met: those of the parameters one
after the other, and then those of the request body. -/
def metArguments (spec : Spec) (op : Operation) : Option (List Argument) := do
  let found ← (spec.mergedParameters op).mapM spec.parameterArguments
  let body ← spec.bodyArguments op
  return found.flatten ++ body

/-- One more parameter adds the arguments that it gives. -/
theorem map_arguments_addToolParameter (parts : ToolParts) (parameter : Document) :
    (spec.addToolParameter parts parameter).map ToolParts.arguments
      = (spec.parameterArguments parameter).map (parts.arguments ++ ·) := by
  unfold addToolParameter parameterArguments
  cases parameter.getText? "name" with
  | none => simp
  | some name =>
    dsimp only
    generalize parameter.getText? "in" = location
    split
    · rfl
    · rfl
    · cases spec.flatten (parameterSchema parameter) _ <;> rfl
    · simp

/-- All parameters add the arguments that they give, in their order. -/
theorem map_arguments_foldlM (parameters : List Document) (parts : ToolParts) :
    (parameters.foldlM spec.addToolParameter parts).map ToolParts.arguments
      = (parameters.mapM spec.parameterArguments).map (parts.arguments ++ ·.flatten) := by
  induction parameters generalizing parts with
  | nil => simp
  | cons parameter rest ih =>
    have hfirst := spec.map_arguments_addToolParameter parts parameter
    rw [List.foldlM_cons, List.mapM_cons]
    cases hmore : spec.parameterArguments parameter with
    | none =>
      rw [hmore, Option.map_none, Option.map_eq_none_iff] at hfirst
      rw [hfirst]
      rfl
    | some more =>
      rw [hmore, Option.map_some] at hfirst
      obtain ⟨next, hnext, harguments⟩ := Option.map_eq_some_iff.mp hfirst
      rw [hnext, Option.bind_eq_bind, Option.bind_some, ih, harguments]
      cases rest.mapM spec.parameterArguments with
      | none => rfl
      | some others => simp

/-- The arguments of a tool are those that its operation gives, the required ones first. -/
theorem map_arguments_tool? (spec : Spec) (op : Operation) :
    (spec.tool? op).map Tool.arguments = (spec.metArguments op).map requiredFirst := by
  have hparts := spec.map_arguments_foldlM (spec.mergedParameters op) ⟨[], op.path⟩
  unfold tool? metArguments
  cases hfound : (spec.mergedParameters op).mapM spec.parameterArguments with
  | none =>
    rw [hfound, Option.map_none, Option.map_eq_none_iff] at hparts
    rw [hparts]
    rfl
  | some found =>
    rw [hfound, Option.map_some] at hparts
    obtain ⟨parts, hparts, harguments⟩ := Option.map_eq_some_iff.mp hparts
    rw [List.nil_append] at harguments
    cases spec.bodyArguments op with
    | none =>
      rw [hparts]
      rfl
    | some body =>
      rw [hparts]
      exact congrArg (fun known => some (requiredFirst (known ++ body))) harguments

/-! ### Required arguments first -/

theorem pairwise_requiredFirst (arguments : List Argument) :
    (requiredFirst arguments).Pairwise fun earlier later =>
      later.isRequired = true → earlier.isRequired = true := by
  rw [requiredFirst, List.pairwise_append]
  refine ⟨List.pairwise_of_forall_mem_list ?_, List.pairwise_of_forall_mem_list ?_, ?_⟩
  · intro earlier hearlier later _ _
    exact (List.mem_filter.mp hearlier).2
  · intro earlier _ later hlater hrequired
    have hoptional := (List.mem_filter.mp hlater).2
    rw [hrequired] at hoptional
    cases hoptional
  · intro earlier hearlier later _ _
    exact (List.mem_filter.mp hearlier).2

/-- The arguments that must be given keep their order, and so do the others. -/
theorem filter_requiredFirst (arguments : List Argument) (required : Bool) :
    (requiredFirst arguments).filter (·.isRequired == required)
      = arguments.filter (·.isRequired == required) := by
  rw [requiredFirst, List.filter_append, List.filter_filter, List.filter_filter]
  cases required <;> simp

/-! ### Names -/

/-- The name of an argument for the part of a body that the names of properties lead to. -/
def bodyName : List String → String
  | [] => "body"
  | name :: names => "body_" ++ Text.join "__" ((name :: names).map Naming.identifier)

theorem bodyName_append_singleton (names : List String) (name : String) :
    bodyName (names ++ [name])
      = bodyName names ++ (if names.isEmpty then "_" else "__") ++ Naming.identifier name := by
  cases names with
  | nil => simp [bodyName, Text.join]
  | cons first rest =>
    have hjoin : Text.join "__" ((first :: rest).map Naming.identifier ++ [Naming.identifier name])
        = Text.join "__" ((first :: rest).map Naming.identifier) ++ "__"
          ++ Text.join "__" [Naming.identifier name] :=
      String.intercalate_append_of_ne_nil (by simp) (by simp)
    calc bodyName (first :: rest ++ [name])
      _ = "body_" ++ Text.join "__" ((first :: rest).map Naming.identifier
          ++ [Naming.identifier name]) := by
        rw [← List.map_singleton, ← List.map_append]
        rfl
      _ = bodyName (first :: rest) ++ "__" ++ Naming.identifier name := by
        rw [hjoin, bodyName]
        simp [Text.join, String.append_assoc]

theorem isName_bodyName (names : List String) : Naming.IsName (bodyName names) := by
  have hbody : Naming.IsName "body" := by decide
  have hlead : Naming.IsName "body_" := by decide
  cases names with
  | nil => exact hbody
  | cons first rest =>
    refine hlead.append fun c hc => ?_
    rcases Text.mem_join hc with hseparator | ⟨part, hpart, hc⟩
    · exact List.all_eq_true.mp (by decide) c hseparator
    · obtain ⟨name, -, rfl⟩ := List.mem_map.mp hpart
      exact Naming.isIdentifierChar_identifier name c hc

/-- The place is named after the properties that lead to it. -/
def BodyPlace.IsNamed (place : BodyPlace) : Prop := place.name = bodyName place.keys

namespace BodyPlace

theorem isNamed_root (required : Bool) (description : String) :
    (root required description).IsNamed := rfl

theorem IsNamed.describe (h : place.IsNamed) (schema : Document) :
    (place.describe schema).IsNamed := by
  unfold BodyPlace.describe
  split
  · exact h
  · exact h

theorem IsNamed.property (h : place.IsNamed) (name : String) (required : Bool) :
    (place.property name required).IsNamed := by
  unfold IsNamed BodyPlace.property at *
  rw [h, bodyName_append_singleton]

end BodyPlace

/-- The arguments of a schema at a place that is named after the properties that lead to it are
those of such places. -/
theorem exists_place_of_mem_flattenWithin (hplace : place.IsNamed)
    (h : spec.flattenWithin steps schema place = some arguments) (ha : a ∈ arguments) :
    ∃ inner hint, inner.IsNamed ∧ a = BodyPlace.argument inner hint := by
  induction steps generalizing schema place arguments with
  | zero => cases h
  | succ steps ih =>
    have hdescribed := hplace.describe (spec.resolve schema)
    rcases mem_flattenWithin_succ h ha with
      ⟨hint, rfl⟩ | ⟨next, -, -, inner, found, hnext, hfound, ha⟩
    · exact ⟨_, hint, hdescribed, rfl⟩
    · cases hnext with
      | own | branch => exact ih hdescribed hfound ha
      | property => exact ih (hdescribed.property ..) hfound ha

/-! ### The arguments of a tool -/

/-- The operation has a parameter of this name in this location. -/
def HasParameter (spec : Spec) (op : Operation) (location : Location) (name : String) : Prop :=
  ∃ parameter ∈ spec.mergedParameters op, parameter.getText? "in" = some location.name ∧
    parameter.getText? "name" = some name

/-- The argument is named after what it stands for.  This is a parameter of the operation, whose
name is the key, or the part of a body that properties lead to, whose names are joined in the key. -/
def IsNamedByKey (spec : Spec) (op : Operation) (a : Argument) : Prop :=
  match a.location with
  | .path => a.name = "path_" ++ Naming.identifier a.key ∧ spec.HasParameter op .path a.key
  | .query => a.name = "param_" ++ Naming.identifier a.key ∧ spec.HasParameter op .query a.key
  | .body => a.name = bodyName a.keys ∧ a.key = Text.join "__" a.keys ∧
      ∃ schema, spec.IsBodySchema op schema ∧ spec.IsPropertyPath schema a.keys

theorem IsArgumentOf.hasSignature (h : spec.IsArgumentOf op a) : a.HasSignature := by
  apply Argument.hasSignature_of_default?
  cases h with
  | path => exact .inl rfl
  | @query parameter =>
    unfold queryArgument Argument.absentValue
    cases isRequiredParameter parameter with
    | true => exact .inl rfl
    | false => exact .inr (by simp)
  | body _ hflatten ha =>
    obtain ⟨place, hint, -, rfl⟩ :=
      exists_place_of_mem_flattenWithin (BodyPlace.isNamed_root ..) hflatten ha
    unfold BodyPlace.argument Argument.absentValue
    cases place.required with
    | true => exact .inl rfl
    | false => exact .inr (by simp)

theorem IsArgumentOf.isNamedByKey (h : spec.IsArgumentOf op a) : spec.IsNamedByKey op a := by
  have hbody := h.path_of_body
  cases h with
  | @path parameter name hparameter hname hin =>
    have hkey : (spec.pathArgument name parameter).key = name := by
      simp [Argument.key, pathArgument, Text.join]
    unfold IsNamedByKey
    rw [hkey]
    exact ⟨rfl, parameter, hparameter, hin, hname⟩
  | @query parameter name hparameter hname hin =>
    have hkey : (spec.queryArgument name parameter).key = name := by
      simp [Argument.key, queryArgument, Text.join]
    unfold IsNamedByKey
    rw [hkey]
    exact ⟨rfl, parameter, hparameter, hin, hname⟩
  | body _ hflatten ha =>
    obtain ⟨place, hint, hnamed, rfl⟩ :=
      exists_place_of_mem_flattenWithin (BodyPlace.isNamed_root ..) hflatten ha
    exact ⟨hnamed, rfl, hbody rfl⟩

theorem IsNamedByKey.isName (h : spec.IsNamedByKey op a) : Naming.IsName a.name := by
  have hpath : Naming.IsName "path_" := by decide
  have hquery : Naming.IsName "param_" := by decide
  unfold IsNamedByKey at h
  split at h
  · rw [h.1]
    exact hpath.append (Naming.isIdentifierChar_identifier a.key)
  · rw [h.1]
    exact hquery.append (Naming.isIdentifierChar_identifier a.key)
  · rw [h.1]
    exact isName_bodyName a.keys

/-- There is a tool exactly where the parameters and the request body give arguments.  The tool has
these arguments: none that must be given follows one that need not, and both kinds keep the order in
which they are met.  The signature of each tells whether it must be given, and its name is made from
its key. -/
theorem arguments_ordered_and_named (spec : Spec) (op : Operation) :
    ((spec.tool? op).isSome = true ↔ (spec.metArguments op).isSome = true) ∧
    ∀ tool, spec.tool? op = some tool → ∃ met, spec.metArguments op = some met ∧
      tool.arguments.Pairwise (fun earlier later =>
        later.isRequired = true → earlier.isRequired = true) ∧
      (∀ required, tool.arguments.filter (·.isRequired == required)
        = met.filter (·.isRequired == required)) ∧
      ∀ a ∈ tool.arguments,
        a.HasSignature ∧ Naming.IsName a.name ∧ spec.IsNamedByKey op a := by
  have hmap := spec.map_arguments_tool? op
  refine ⟨?_, fun tool htool => ?_⟩
  · rw [← Option.isSome_map, hmap, Option.isSome_map]
  · rw [htool, Option.map_some] at hmap
    obtain ⟨met, hmet, harguments⟩ := Option.map_eq_some_iff.mp hmap.symm
    refine ⟨met, hmet, ?_, ?_, fun a ha => ?_⟩
    · rw [← harguments]
      exact pairwise_requiredFirst met
    · rw [← harguments]
      exact filter_requiredFirst met
    · have hgiven := isArgumentOf_of_tool? htool a ha
      exact ⟨hgiven.hasSignature, hgiven.isNamedByKey.isName, hgiven.isNamedByKey⟩

/-- An operation with a flag in the query, a parameter in the path, and a body that requires an
object with one of its two properties. -/
def scaleOperation : Operation :=
  ⟨"/pods/\x7bpod.id\x7d/scale", .put, .object
    [("parameters", .list
      [.object [("name", .text "dry-run"), ("in", .text "query"),
        ("schema", .object [("type", .text "boolean")])],
        .object [("name", .text "pod.id"), ("in", .text "path"),
          ("schema", .object [("type", .text "string")])]]),
      ("requestBody", .object [("content", .object [("application/json", .object [("schema",
        .object [("required", .list [.text "spec"]), ("properties", .object [("spec",
          .object [("required", .list [.text "replicas"]), ("properties", .object
            [("image-name", .object [("type", .text "string")]),
              ("replicas", .object [("type", .text "integer")])])])])])])])])], .null⟩

/-- The parameter in the path and the number in the body come first. -/
theorem arguments_ordered_and_named_scale : ∃ tool met,
    (Spec.mk .null).tool? scaleOperation = some tool ∧
    (Spec.mk .null).metArguments scaleOperation = some met ∧
    met.map Argument.signature = ["param_dry_run: bool = False", "path_pod_id: str",
      "body_spec__image_name: str = None", "body_spec__replicas: int"] ∧
    tool.arguments.map Argument.signature = ["path_pod_id: str", "body_spec__replicas: int",
      "param_dry_run: bool = False", "body_spec__image_name: str = None"] ∧
    ∀ a ∈ tool.arguments,
      a.HasSignature ∧ Naming.IsName a.name ∧ (Spec.mk .null).IsNamedByKey scaleOperation a := by
  have hsignatures : ((Spec.mk .null).tool? scaleOperation).map Tool.signatures
      = some ["path_pod_id: str", "body_spec__replicas: int", "param_dry_run: bool = False",
        "body_spec__image_name: str = None"] := by decide +kernel
  have hmetSignatures : ((Spec.mk .null).metArguments scaleOperation).map
      (List.map Argument.signature) = some ["param_dry_run: bool = False", "path_pod_id: str",
        "body_spec__image_name: str = None", "body_spec__replicas: int"] := by decide +kernel
  obtain ⟨tool, htool, heq⟩ := Option.map_eq_some_iff.mp hsignatures
  obtain ⟨met, hmet, -, -, hall⟩ := (arguments_ordered_and_named (Spec.mk .null) scaleOperation).2 tool htool
  rw [hmet] at hmetSignatures
  exact ⟨tool, met, htool, hmet, Option.some.inj hmetSignatures, heq, hall⟩

end Spec

end ApiTools
