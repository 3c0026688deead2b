import ApiTools.Proofs.Naming.Names
import ApiTools.Proofs.Tool.Arguments

/-!
# Keys of body arguments

The key of a body argument is written from the names of the properties that lead to it, with two
underscores between them, and the generated client cuts it at two underscores again.  The cut is the
leftmost one, so a name that ends in an underscore loses it to the cut, and a name with two
underscores falls apart; `splitUnderscores_key` says that nothing else goes wrong.  One direction is
a run over the key, name by name (`splitUnderscoresFrom_append`).  The other one looks at the cut
alone: no piece of any text has two underscores, and none but the last ends in one
(`isSeparable_splitUnderscoresFrom`).
-/

namespace ApiTools

/-! ### Cutting at two underscores -/

namespace Text

/-- The pieces of the characters between pairs of underscores, read from the left, where `piece`
holds the one begun, in reverse. -/
def splitUnderscoresFrom (piece : List Char) : List Char → List (List Char)
  | '_' :: '_' :: rest => piece.reverse :: splitUnderscoresFrom [] rest
  | c :: rest => splitUnderscoresFrom (c :: piece) rest
  | [] => [piece.reverse]

/-- The pieces of the text between pairs of underscores, read from the left. -/
def splitUnderscores (s : String) : List String :=
  (splitUnderscoresFrom [] s.toList).map String.ofList

/-- Do the names come out of the cut whole?  None has two underscores, and none but the last ends in
one. -/
structure IsSeparable (names : List (List Char)) : Prop where
  pair : ∀ name ∈ names, ¬ ['_', '_'] <:+: name
  last : ∀ name ∈ names.dropLast, name.getLast? ≠ some '_'

theorem splitUnderscoresFrom_ne_nil (piece cs : List Char) : splitUnderscoresFrom piece cs ≠ [] := by
  fun_induction splitUnderscoresFrom piece cs <;> simp_all

/-- The pieces of any characters are separable, where the piece begun is and does not end in an
underscore to which the next one would be the second. -/
theorem isSeparable_splitUnderscoresFrom {piece cs : List Char} (hpair : ¬ ['_', '_'] <:+: piece)
    (hnext : piece.head? = some '_' → cs.head? ≠ some '_') :
    IsSeparable (splitUnderscoresFrom piece cs) := by
  have hreverse : ∀ {cs : List Char}, ¬ ['_', '_'] <:+: cs → ¬ ['_', '_'] <:+: cs.reverse := by
    intro cs h hinfix
    rw [show ['_', '_'] = ['_', '_'].reverse from rfl, List.reverse_infix] at hinfix
    exact h hinfix
  fun_induction splitUnderscoresFrom piece cs with
  | case1 piece rest ih =>
    -- A piece that ended in an underscore would have been cut one character earlier.
    obtain ⟨hpairs, hlasts⟩ := ih (by simp) (by simp)
    refine ⟨?_, ?_⟩
    · rw [List.forall_mem_cons]
      exact ⟨hreverse hpair, hpairs⟩
    · rw [List.dropLast_cons_of_ne_nil (splitUnderscoresFrom_ne_nil _ _), List.forall_mem_cons,
        List.getLast?_reverse]
      exact ⟨fun hhead => hnext hhead rfl, hlasts⟩
  | case2 piece c rest hcut ih =>
    -- The character makes no pair with the one before it, nor with the one after it.
    apply ih
    · rw [List.infix_cons_iff, not_or]
      refine ⟨?_, hpair⟩
      intro hprefix
      rw [List.cons_prefix_cons] at hprefix
      obtain ⟨rfl, tail, rfl⟩ := hprefix
      exact hnext rfl rfl
    · intro hc hrest
      cases rest with
      | nil => cases hrest
      | cons d rest => exact hcut rest (by simpa using hc) (by simpa using hrest)
  | case3 piece =>
    refine ⟨?_, by simp⟩
    rw [List.forall_mem_singleton]
    exact hreverse hpair

/-- A name is cut off where it ends. -/
theorem splitUnderscoresFrom_append {piece name : List Char} (rest : List Char)
    (hpair : ¬ ['_', '_'] <:+: name) (hlast : name.getLast? ≠ some '_') :
    splitUnderscoresFrom piece (name ++ '_' :: '_' :: rest)
      = (piece.reverse ++ name) :: splitUnderscoresFrom [] rest := by
  induction name generalizing piece with
  | nil => simp [splitUnderscoresFrom]
  | cons c name ih =>
    rw [List.infix_cons_iff, not_or] at hpair
    -- The character is not the first of two underscores, neither within the name nor with the ones
    -- after it.
    have hstep : splitUnderscoresFrom piece (c :: (name ++ '_' :: '_' :: rest))
        = splitUnderscoresFrom (c :: piece) (name ++ '_' :: '_' :: rest) := by
      apply splitUnderscoresFrom.eq_2
      rintro tail rfl htail
      cases name with
      | nil => exact hlast rfl
      | cons d name =>
        obtain ⟨rfl, -⟩ := List.cons.inj htail
        exact hpair.1 (List.prefix_append ['_', '_'] name)
    have hlast' : name.getLast? ≠ some '_' := by
      cases name with
      | nil => simp
      | cons d name => rwa [List.getLast?_cons_cons] at hlast
    rw [List.cons_append, hstep, ih hpair.2 hlast']
    simp

/-- A name without two underscores is not cut. -/
theorem splitUnderscoresFrom_eq_singleton {piece name : List Char}
    (hpair : ¬ ['_', '_'] <:+: name) :
    splitUnderscoresFrom piece name = [piece.reverse ++ name] := by
  fun_induction splitUnderscoresFrom piece name with
  | case1 => exact absurd (List.prefix_append ['_', '_'] _).isInfix hpair
  | case2 piece c rest hcut ih =>
    rw [List.infix_cons_iff, not_or] at hpair
    rw [ih hpair.2]
    simp
  | case3 => simp

/-- Separable names that are joined come out of the cut. -/
theorem splitUnderscoresFrom_join {names : List String} (hne : names ≠ [])
    (h : IsSeparable (names.map String.toList)) :
    splitUnderscoresFrom [] (join "__" names).toList = names.map String.toList := by
  induction names with
  | nil => exact absurd rfl hne
  | cons name rest ih =>
    obtain ⟨hpair, hlast⟩ := h
    rw [List.map_cons, List.forall_mem_cons] at hpair
    cases rest with
    | nil =>
      have hsingle : join "__" [name] = name := by simp [join]
      rw [hsingle, splitUnderscoresFrom_eq_singleton hpair.1]
      rfl
    | cons next rest =>
      rw [List.map_cons, List.dropLast_cons_of_ne_nil (by simp), List.forall_mem_cons] at hlast
      rw [join_cons_cons, List.append_assoc, List.map_cons, ← ih (by simp) ⟨hpair.2, hlast.2⟩]
      exact splitUnderscoresFrom_append _ hpair.1 hlast.1

/-- Names that are joined come out of the cut where they are separable, and only there. -/
theorem splitUnderscores_join_iff {names : List String} (hne : names ≠ []) :
    splitUnderscores (join "__" names) = names ↔ IsSeparable (names.map String.toList) := by
  unfold splitUnderscores
  constructor
  · intro h
    have hpieces := congrArg (List.map String.toList) h
    rw [List.map_map] at hpieces
    simp only [Function.comp_def, String.toList_ofList, List.map_id'] at hpieces
    rw [← hpieces]
    exact isSeparable_splitUnderscoresFrom (by simp) (by simp)
  · intro h
    rw [splitUnderscoresFrom_join hne h, List.map_map]
    simp

end Text

/-! ### Paths of properties -/

namespace Spec

variable {spec : Spec} {op : Operation} {tool : Tool} {schema : Document} {place : BodyPlace}
  {arguments : List Argument} {a : Argument}

/-- The names lead from a schema to a part of it.  Each is the name of a property; references and
branches are followed without one. -/
inductive IsPropertyPath (spec : Spec) : Document → List String → Prop
  | here (schema : Document) : IsPropertyPath spec schema []
  | own {schema : Document} {names : List String}
      (h : IsPropertyPath spec (withoutBranches (spec.resolve schema)) names) :
    IsPropertyPath spec schema names
  | branch {schema branch : Document} {names : List String}
      (hbranch : branch ∈ branches (spec.resolve schema)) (h : IsPropertyPath spec branch names) :
    IsPropertyPath spec schema names
  | property {schema : Document} {properties : Members} {entry : String × Document}
      {names : List String}
      (hproperties : (spec.resolve schema).getMembers? "properties" = some properties)
      (hentry : entry ∈ properties) (h : IsPropertyPath spec entry.2 names) :
    IsPropertyPath spec schema (entry.1 :: names)

/-- Each argument of a schema stands for a part of the body below the place of the schema. -/
theorem path_of_mem_flattenWithin {steps : Nat}
    (h : spec.flattenWithin steps schema place = some arguments) (ha : a ∈ arguments) :
    a.location = .body ∧ ∃ names, a.keys = place.keys ++ names ∧
      spec.IsPropertyPath schema names := by
  induction steps generalizing schema place arguments with
  | zero => cases h
  | succ steps ih =>
    have hkeys := keys_describe place (spec.resolve schema)
    rcases mem_flattenWithin_succ h ha with
      ⟨hint, rfl⟩ | ⟨next, -, -, inner, found, hnext, hfound, ha⟩
    · refine ⟨rfl, [], ?_, .here schema⟩
      rw [List.append_nil, ← hkeys]
      rfl
    · obtain ⟨hbody, names, hnames, hpath⟩ := ih hfound ha
      refine ⟨hbody, ?_⟩
      cases hnext with
      | own => exact ⟨names, by rw [hnames, hkeys], .own hpath⟩
      | branch hbranch => exact ⟨names, by rw [hnames, hkeys], .branch hbranch hpath⟩
      | @property _ entry hproperties hentry =>
        refine ⟨entry.1 :: names, ?_, .property hproperties hentry hpath⟩
        rw [hnames, ← hkeys]
        exact List.append_assoc _ [entry.1] names

/-- The schemas of the bodies that an operation takes: of a parameter in the body, and of the
request body. -/
inductive IsBodySchema (spec : Spec) (op : Operation) : Document → Prop
  | parameter {parameter : Document} (h : parameter ∈ spec.mergedParameters op)
      (hin : parameter.getText? "in" = some "body") :
    IsBodySchema spec op (parameterSchema parameter)
  | body {body schema : Document} (hbody : op.requestBody? = some body)
      (hschema : bodySchema? (spec.resolve body) = some schema) : IsBodySchema spec op schema

/-- Where the arguments of a tool come from. -/
inductive IsArgumentOf (spec : Spec) (op : Operation) : Argument → Prop
  | path {parameter : Document} {name : String} (h : parameter ∈ spec.mergedParameters op)
      (hname : parameter.getText? "name" = some name) (hin : parameter.getText? "in" = some "path") :
    IsArgumentOf spec op (spec.pathArgument name parameter)
  | query {parameter : Document} {name : String} (h : parameter ∈ spec.mergedParameters op)
      (hname : parameter.getText? "name" = some name)
      (hin : parameter.getText? "in" = some "query") :
    IsArgumentOf spec op (spec.queryArgument name parameter)
  | body {schema : Document} {required : Bool} {description : String} {arguments : List Argument}
      {a : Argument} (hschema : spec.IsBodySchema op schema)
      (h : spec.flatten schema (.root required description) = some arguments) (ha : a ∈ arguments) :
    IsArgumentOf spec op a

/-- One more parameter. -/
theorem isArgumentOf_addToolParameter {parameter : Document} {parts after : ToolParts}
    (hparameter : parameter ∈ spec.mergedParameters op)
    (hparts : ∀ a ∈ parts.arguments, spec.IsArgumentOf op a)
    (h : spec.addToolParameter parts parameter = some after) :
    ∀ a ∈ after.arguments, spec.IsArgumentOf op a := by
  rcases addToolParameter_cases h with
    ⟨rfl, -⟩ | ⟨name, hname, ⟨hin, rfl⟩ | ⟨hin, rfl⟩ | ⟨hin, found, hfound, rfl⟩⟩
  · exact hparts
  · rw [List.forall_mem_append, List.forall_mem_singleton]
    exact ⟨hparts, .path hparameter hname hin⟩
  · rw [List.forall_mem_append, List.forall_mem_singleton]
    exact ⟨hparts, .query hparameter hname hin⟩
  · rw [List.forall_mem_append]
    exact ⟨hparts, fun a ha => .body (.parameter hparameter hin) hfound ha⟩

/-- The arguments of a tool come from the parameters and the bodies of its operation. -/
theorem isArgumentOf_of_tool? (h : spec.tool? op = some tool) :
    ∀ a ∈ tool.arguments, spec.IsArgumentOf op a := by
  obtain ⟨parts, body, hparts, hbody, rfl⟩ := exists_of_tool? h
  have hgiven : ∀ a ∈ parts.arguments, spec.IsArgumentOf op a :=
    foldlM_addToolParameter_induct (fun _ hparameter _ _ => isArgumentOf_addToolParameter hparameter)
      (fun _ hmem => absurd hmem List.not_mem_nil) hparts
  have hown : ∀ a ∈ body, spec.IsArgumentOf op a := by
    rcases bodyArguments_cases hbody with rfl | ⟨request, schema, hrequest, hschema, hflatten⟩
    · exact fun _ hmem => absurd hmem List.not_mem_nil
    · exact fun a ha => .body (.body hrequest hschema) hflatten ha
  have hall := List.forall_mem_append.mpr ⟨hgiven, hown⟩
  exact fun a ha => hall a (mem_requiredFirst ha)

/-- The names that lead to a body argument are a path of properties of a body. -/
theorem IsArgumentOf.path_of_body (h : spec.IsArgumentOf op a) (hbody : a.location = .body) :
    ∃ schema, spec.IsBodySchema op schema ∧ spec.IsPropertyPath schema a.keys := by
  cases h with
  | path => cases hbody
  | query => cases hbody
  | body hschema hflatten ha =>
    obtain ⟨-, names, hnames, hpath⟩ := path_of_mem_flattenWithin hflatten ha
    rw [hnames]
    exact ⟨_, hschema, hpath⟩

/-! ### Keys -/

/-- Is it an argument of the operation's tool that stands for a property in a body? -/
def IsPropertyArgument (spec : Spec) (op : Operation) (a : Argument) : Prop :=
  ∃ tool, spec.tool? op = some tool ∧ a ∈ tool.arguments ∧ a.location = .body ∧ a.keys ≠ []

/-- The names that lead to a property argument are a path of properties of a body.  They come out of
its key where they are separable, and only there; so different paths of separable names have
different keys, of whichever operations they are. -/
theorem splitUnderscores_key (h : spec.IsPropertyArgument op a) :
    (∃ schema, spec.IsBodySchema op schema ∧ spec.IsPropertyPath schema a.keys) ∧
    (Text.splitUnderscores a.key = a.keys ↔ Text.IsSeparable (a.keys.map String.toList)) ∧
    ∀ {other : Spec} {op' : Operation} {b : Argument}, other.IsPropertyArgument op' b →
      Text.IsSeparable (a.keys.map String.toList) → Text.IsSeparable (b.keys.map String.toList) →
      a.keys ≠ b.keys → a.key ≠ b.key := by
  obtain ⟨tool, htool, hmem, hbody, hne⟩ := h
  refine ⟨?_, Text.splitUnderscores_join_iff hne, ?_⟩
  · exact (isArgumentOf_of_tool? htool a hmem).path_of_body hbody
  · rintro other op' b ⟨-, -, -, -, hne'⟩ ha hb hdiffer hkey
    have hsplit := (Text.splitUnderscores_join_iff hne).mpr ha
    have hsplit' := (Text.splitUnderscores_join_iff hne').mpr hb
    apply hdiffer
    calc a.keys = Text.splitUnderscores a.key := hsplit.symm
      _ = Text.splitUnderscores b.key := by rw [hkey]
      _ = b.keys := hsplit'

/-- An operation whose body has two properties in two others, one of which ends in an underscore. -/
def podOperation : Operation :=
  ⟨"/pods", .put, .object [("requestBody", .object [("content", .object [("application/json",
    .object [("schema", .object [("properties", .object [
      ("spec", .object [("properties", .object [("replicas", .object [("type", .text "integer")])])]),
      ("x_", .object [("properties", .object [("y", .object [("type", .text "integer")])])])])])])])])],
    .null⟩

/-- The arguments of `podOperation`. -/
def replicasArgument : Argument :=
  ⟨"body_spec__replicas", .int, some "None", .body, ["spec", "replicas"], ""⟩

def yArgument : Argument := ⟨"body_x___y", .int, some "None", .body, ["x_", "y"], ""⟩

/-- One key of `podOperation` is cut into the names, and the other is not: the underscore goes to
the second name. -/
theorem splitUnderscores_key_podOperation :
    IsPropertyArgument ⟨.null⟩ podOperation replicasArgument ∧
      IsPropertyArgument ⟨.null⟩ podOperation yArgument ∧
      Text.splitUnderscores replicasArgument.key = replicasArgument.keys ∧
      Text.splitUnderscores yArgument.key ≠ yArgument.keys := by
  have harguments : ((Spec.mk .null).tool? podOperation).map Tool.arguments
      = some [replicasArgument, yArgument] := by decide +kernel
  obtain ⟨tool, htool, heq⟩ := Option.map_eq_some_iff.mp harguments
  have hreplicas : IsPropertyArgument ⟨.null⟩ podOperation replicasArgument := by
    refine ⟨tool, htool, ?_, rfl, List.cons_ne_nil _ _⟩
    rw [heq]
    exact List.mem_cons_self ..
  have hy : IsPropertyArgument ⟨.null⟩ podOperation yArgument := by
    refine ⟨tool, htool, ?_, rfl, List.cons_ne_nil _ _⟩
    rw [heq]
    exact List.mem_cons_of_mem _ (List.mem_singleton_self _)
  refine ⟨hreplicas, hy, ?_, ?_⟩
  · exact (splitUnderscores_key hreplicas).2.1.mpr ⟨by decide +kernel, by decide +kernel⟩
  · intro hsplit
    obtain ⟨-, hlast⟩ := (splitUnderscores_key hy).2.1.mp hsplit
    exact absurd hlast (by decide +kernel)

end Spec

end ApiTools
