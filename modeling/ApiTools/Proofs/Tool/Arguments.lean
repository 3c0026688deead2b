import ApiTools.Proofs.Document.FirstWins
import ApiTools.Proofs.Tool.BodySteps
import ApiTools.Tool.Extract

/-!
# Where the arguments of a tool come from

A tool is put together from the parameters of its operation, one after the other, and from the
request body, and a body is flattened schema by schema.  Each of these steps is taken apart here
once: what one more parameter does (`Spec.addToolParameter_cases`), what the request body gives
(`Spec.bodyArguments_cases`), and how an argument of a schema is one of the place of this schema or
one of a schema that a step of flattening comes to (`Spec.exists_takesApart_of_mem`).
-/

namespace ApiTools

/-- Have the arguments one signature? -/
def Argument.sameSignature (a b : Argument) : Bool := a.signature = b.signature

namespace Spec

variable {spec : Spec} {op : Operation} {tool : Tool} {schema parameter : Document}
  {place : BodyPlace} {arguments : List Argument} {a : Argument} {parts after : ToolParts}

/-! ### Arguments of a schema -/

/-- Adding the arguments of one branch after another adds each whose signature is new. -/
theorem foldl_addArguments (found : List (List Argument)) (own : List Argument) :
    found.foldl addArguments own = addNew Argument.sameSignature own found.flatten := by
  rw [← List.flatMap_id, addNew_flatMap]
  rfl

theorem mem_foldl_addArguments {found : List (List Argument)} {own : List Argument}
    (h : a ∈ found.foldl addArguments own) : a ∈ own ∨ ∃ more ∈ found, a ∈ more := by
  rw [foldl_addArguments] at h
  exact (mem_or_mem_of_mem_addNew h).imp_right List.mem_flatten.mp

theorem getMembers?_of_bodyShape {properties : Members}
    (h : bodyShape schema = .fields properties) :
    schema.getMembers? "properties" = some properties := by
  unfold bodyShape at h
  split_ifs at h
  split at h
  · next hget =>
    cases h
    exact hget
  · cases h

theorem exists_of_forall₂ {α β : Type} {R : α → β → Prop} {xs : List α} {ys : List β} {y : β}
    (h : List.Forall₂ R xs ys) (hy : y ∈ ys) : ∃ x ∈ xs, R x y := by
  induction h with
  | nil => cases hy
  | cons hfirst _ ih =>
    rcases List.mem_cons.mp hy with rfl | hy
    · exact ⟨_, List.mem_cons_self .., hfirst⟩
    · obtain ⟨x, hx, hR⟩ := ih hy
      exact ⟨x, List.mem_cons_of_mem _ hx, hR⟩

theorem mapM_eq_some_iff {α β : Type} {f : α → Option β} {items : List α} {found : List β} :
    items.mapM f = some found ↔ List.Forall₂ (fun item b => f item = some b) items found := by
  induction items generalizing found with
  | nil => simp [eq_comm]
  | cons item rest ih =>
    rw [List.mapM_cons, List.forall₂_cons_left_iff]
    constructor
    · intro h
      obtain ⟨first, hfirst, h⟩ := Option.bind_eq_some_iff.mp h
      obtain ⟨others, hothers, h⟩ := Option.bind_eq_some_iff.mp h
      cases h
      exact ⟨first, others, hfirst, ih.mp hothers, rfl⟩
    · rintro ⟨first, others, hfirst, hothers, rfl⟩
      rw [hfirst, ih.mpr hothers]
      rfl

/-- What is found for several values is found for one of them. -/
theorem exists_of_mem_mapM {α β : Type} {f : α → Option β} {items : List α} {found : List β}
    {b : β} (hfound : items.mapM f = some found) (hb : b ∈ found) :
    ∃ item ∈ items, f item = some b :=
  exists_of_forall₂ (R := fun item b => f item = some b) (mapM_eq_some_iff.mp hfound) hb

/-- What is found for one of several values is found for all of them. -/
theorem exists_mem_of_mapM {α β : Type} {f : α → Option β} {items : List α} {found : List β}
    (hfound : items.mapM f = some found) {item : α} (hitem : item ∈ items) :
    ∃ b ∈ found, f item = some b :=
  exists_of_forall₂ (R := fun b item => f item = some b) (mapM_eq_some_iff.mp hfound).flip hitem

/-- A step of flattening takes a schema at a place apart: a composed one into itself without its
branches and into each branch, and one with fields into each of these, as long as fewer than eight
names lead to the place. -/
inductive TakesApart (spec : Spec) : Document × BodyPlace → Document × BodyPlace → Prop
  | own {schema : Document} {place : BodyPlace}
      (hcomposed : bodyShape (spec.resolve schema) = .composed)
      (hproperties : (spec.resolve schema).has "properties" = true) :
    TakesApart spec (schema, place)
      (withoutBranches (spec.resolve schema), place.describe (spec.resolve schema))
  | branch {schema branch : Document} {place : BodyPlace}
      (hcomposed : bodyShape (spec.resolve schema) = .composed)
      (hbranch : branch ∈ branches (spec.resolve schema)) :
    TakesApart spec (schema, place) (branch, place.describe (spec.resolve schema))
  | property {schema : Document} {place : BodyPlace} {properties : Members}
      {entry : String × Document} (hfields : bodyShape (spec.resolve schema) = .fields properties)
      (hentry : entry ∈ properties) (hdepth : place.keys.length < maxBodyDepth) :
    TakesApart spec (schema, place) (entry.2, (place.describe (spec.resolve schema)).property
      entry.1 ((requiredNames (spec.resolve schema)).contains entry.1))

/-- An argument of a schema stands for its place, or it is one of a schema that a step comes to. -/
theorem exists_takesApart_of_mem {steps : Nat}
    (h : spec.flattenWithin (steps + 1) schema place = some arguments) (ha : a ∈ arguments) :
    (∃ hint, a = (place.describe (spec.resolve schema)).argument hint) ∨
      ∃ next inner found, spec.TakesApart (schema, place) (next, inner) ∧
        spec.flattenWithin steps next inner = some found ∧ a ∈ found := by
  rw [flattenWithin_succ] at h
  dsimp only at h
  cases hshape : bodyShape (spec.resolve schema) with
  | composed =>
    -- The properties beside the branches are flattened first, where there are any.
    simp only [hshape] at h
    obtain ⟨own, hown, h⟩ := Option.bind_eq_some_iff.mp h
    obtain ⟨found, hfound, rfl⟩ := Option.map_eq_some_iff.mp h
    right
    rcases mem_foldl_addArguments ha with ha | ⟨more, hmore, ha⟩
    · split_ifs at hown with hproperties
      · exact ⟨_, _, own, .own hshape hproperties, hown, ha⟩
      · cases hown
        cases ha
    · obtain ⟨branch, hbranch, hgiven⟩ := exists_of_mem_mapM hfound hmore
      exact ⟨_, _, more, .branch hshape hbranch, hgiven, ha⟩
  | fields properties =>
    simp only [hshape, keys_describe] at h
    -- Below the greatest depth each property is a place of its own, at it they are one argument.
    split_ifs at h with hdepth
    · obtain ⟨found, hfound, rfl⟩ := Option.map_eq_some_iff.mp h
      obtain ⟨more, hmore, ha⟩ := List.mem_flatten.mp ha
      obtain ⟨entry, hentry, hgiven⟩ := exists_of_mem_mapM hfound hmore
      exact .inr ⟨_, _, more, .property hshape hentry hdepth, hgiven, ha⟩
    · cases h
      exact .inl ⟨_, List.mem_singleton.mp ha⟩
  | dictionary | leaf =>
    simp only [hshape] at h
    cases h
    exact .inl ⟨_, List.mem_singleton.mp ha⟩

/-- Flattening of a schema at a place goes on with another schema at another place: with the schema
without its branches and with each branch at the place itself, and with each property at a place
below. -/
inductive GoesOnWith (spec : Spec) (schema : Document) (place : BodyPlace) :
    Document → BodyPlace → Prop
  | own : GoesOnWith spec schema place (withoutBranches (spec.resolve schema))
      (place.describe (spec.resolve schema))
  | branch {branch : Document} (h : branch ∈ branches (spec.resolve schema)) :
    GoesOnWith spec schema place branch (place.describe (spec.resolve schema))
  | property {properties : Members} {entry : String × Document}
      (hproperties : (spec.resolve schema).getMembers? "properties" = some properties)
      (hentry : entry ∈ properties) (required : Bool) :
    GoesOnWith spec schema place entry.2
      ((place.describe (spec.resolve schema)).property entry.1 required)

/-- A step comes to what flattening goes on with. -/
theorem TakesApart.goesOnWith {next : Document} {inner : BodyPlace}
    (h : spec.TakesApart (schema, place) (next, inner)) :
    (next, inner.keys.length) ∈ spec.continuations (schema, place.keys.length) ∧
      spec.GoesOnWith schema place next inner := by
  unfold continuations continuationsOf
  cases h with
  | own hcomposed hproperties =>
    rw [hcomposed, keys_describe]
    dsimp only
    rw [if_pos hproperties]
    exact ⟨List.mem_append_left _ (List.mem_singleton_self _), .own⟩
  | branch hcomposed hbranch =>
    rw [hcomposed, keys_describe]
    exact ⟨List.mem_append_right _ (List.mem_map_of_mem hbranch), .branch hbranch⟩
  | property hfields hentry hdepth =>
    rw [hfields, length_keys_property, keys_describe]
    dsimp only
    rw [if_pos hdepth]
    exact ⟨List.mem_map_of_mem hentry, .property (getMembers?_of_bodyShape hfields) hentry _⟩

/-- An argument of a schema stands for the place of the schema, or it is one of a schema that
flattening goes on with. -/
theorem mem_flattenWithin_succ {steps : Nat}
    (h : spec.flattenWithin (steps + 1) schema place = some arguments) (ha : a ∈ arguments) :
    (∃ hint, a = (place.describe (spec.resolve schema)).argument hint) ∨
      ∃ next depth, (next, depth) ∈ spec.continuations (schema, place.keys.length) ∧
        ∃ inner found, spec.GoesOnWith schema place next inner ∧
          spec.flattenWithin steps next inner = some found ∧ a ∈ found := by
  refine (exists_takesApart_of_mem h ha).imp_right ?_
  rintro ⟨next, inner, found, hstep, hfound, ha⟩
  obtain ⟨hstate, hnext⟩ := hstep.goesOnWith
  exact ⟨next, _, hstate, inner, found, hnext, hfound, ha⟩

/-! ### Arguments of an operation -/

theorem mem_addParameter {known : List Document} {other : Document}
    (h : parameter ∈ addParameter known other) : parameter ∈ known ∨ parameter = other := by
  fun_induction addParameter known other with
  | case1 => exact .inr (List.mem_singleton.mp h)
  | case2 known rest _ => grind
  | case3 known rest _ ih => grind

/-- Merging only leaves parameters out. -/
theorem mem_mergedParameters (h : parameter ∈ spec.mergedParameters op) :
    parameter ∈ spec.declaredParameters op := by
  have hfold : ∀ declared known : List Document, parameter ∈ declared.foldl addParameter known →
      parameter ∈ known ∨ parameter ∈ declared := by
    intro declared
    induction declared with
    | nil => exact fun known hmem => .inl hmem
    | cons first rest ih =>
      intro known hmem
      rcases ih _ hmem with hmem | hmem
      · rcases mem_addParameter hmem with hmem | rfl
        · exact .inl hmem
        · exact .inr (List.mem_cons_self ..)
      · exact .inr (List.mem_cons_of_mem _ hmem)
  exact (hfold _ [] h).resolve_left List.not_mem_nil

/-- One more parameter is passed over, for want of a name or for its location, or it is an argument
in the path or in the query, or it is a body that is flattened. -/
theorem addToolParameter_cases (h : spec.addToolParameter parts parameter = some after) :
    (after = parts ∧ (parameter.getText? "name" = none ∨
        ∀ location ∈ ["path", "query", "body"], parameter.getText? "in" ≠ some location)) ∨
      ∃ name, parameter.getText? "name" = some name ∧
        ((parameter.getText? "in" = some "path" ∧
            after = ⟨parts.arguments ++ [spec.pathArgument name parameter],
              Text.replace parts.formattedPath (placeholder name)
                (placeholder (spec.pathArgument name parameter).name)⟩) ∨
          (parameter.getText? "in" = some "query" ∧
            after = ⟨parts.arguments ++ [spec.queryArgument name parameter], parts.formattedPath⟩) ∨
          (parameter.getText? "in" = some "body" ∧ ∃ found,
            spec.flatten (parameterSchema parameter) (.root (isRequiredParameter parameter)
              (parameter.trimmedText "description")) = some found ∧
            after = ⟨parts.arguments ++ found, parts.formattedPath⟩)) := by
  unfold addToolParameter at h
  split at h
  · next hname =>
    cases h
    exact .inl ⟨rfl, .inl hname⟩
  · next name hname =>
    split at h
    · next hin =>
      cases h
      exact .inr ⟨name, hname, .inl ⟨hin, rfl⟩⟩
    · next hin =>
      cases h
      exact .inr ⟨name, hname, .inr (.inl ⟨hin, rfl⟩)⟩
    · next hin =>
      obtain ⟨found, hfound, h⟩ := Option.bind_eq_some_iff.mp h
      cases h
      exact .inr ⟨name, hname, .inr (.inr ⟨hin, found, hfound, rfl⟩)⟩
    · next hpath hquery hbody =>
      cases h
      exact .inl ⟨rfl, .inr (by simpa using ⟨hpath, hquery, hbody⟩)⟩

/-- What each parameter keeps is kept by all of them. -/
theorem foldlM_addToolParameter_induct {Kept : ToolParts → Prop} {parameters : List Document}
    (hstep : ∀ parameter ∈ parameters, ∀ parts after, Kept parts →
      spec.addToolParameter parts parameter = some after → Kept after)
    (hparts : Kept parts) (h : parameters.foldlM spec.addToolParameter parts = some after) :
    Kept after := by
  induction parameters generalizing parts with
  | nil =>
    cases h
    exact hparts
  | cons parameter rest ih =>
    rw [List.forall_mem_cons] at hstep
    rw [List.foldlM_cons] at h
    obtain ⟨next, hnext, h⟩ := Option.bind_eq_some_iff.mp h
    exact ih hstep.2 (hstep.1 parts next hparts hnext) h

/-- A request body gives arguments where it has a schema, and these are of the schema. -/
theorem bodyArguments_cases (h : spec.bodyArguments op = some arguments) :
    arguments = [] ∨ ∃ body schema, op.requestBody? = some body ∧
      bodySchema? (spec.resolve body) = some schema ∧
      spec.flatten schema (.root (isRequiredParameter (spec.resolve body))
        ((spec.resolve body).trimmedText "description")) = some arguments := by
  unfold bodyArguments at h
  split at h
  · cases h
    exact .inl rfl
  · next body hbody =>
    dsimp only at h
    split at h
    · cases h
      exact .inl rfl
    · next schema hschema => exact .inr ⟨body, schema, hbody, hschema, h⟩

theorem mem_requiredFirst (h : a ∈ requiredFirst arguments) : a ∈ arguments := by
  unfold requiredFirst at h
  rcases List.mem_append.mp h with h | h
  · exact List.mem_of_mem_filter h
  · exact List.mem_of_mem_filter h

/-- A tool has the arguments of the parameters and of the request body. -/
theorem exists_of_tool? (h : spec.tool? op = some tool) :
    ∃ parts body, (spec.mergedParameters op).foldlM spec.addToolParameter ⟨[], op.path⟩ = some parts ∧
      spec.bodyArguments op = some body ∧
      tool = ⟨op.operationId?.getD (toolName op), toolName op, op.method, op.path,
        parts.formattedPath, requiredFirst (parts.arguments ++ body),
        Text.trim (op.summary?.getD ""), Text.trim (op.description?.getD "")⟩ := by
  unfold tool? at h
  obtain ⟨parts, hparts, h⟩ := Option.bind_eq_some_iff.mp h
  obtain ⟨body, hbody, h⟩ := Option.bind_eq_some_iff.mp h
  cases h
  exact ⟨parts, body, hparts, hbody, rfl⟩

end Spec

end ApiTools
