import ApiTools.Proofs.Tool.Ordered
import ApiTools.Proofs.Tool.Whole
import Mathlib.Data.Fintype.Card
import Mathlib.Data.Set.Finite.Basic

/-!
# Bodies that contain themselves

A schema may contain itself through a property.  Where none does so through references and branches
alone (`Spec.IsAcyclic`), every operation has a tool: at each of the nine depths flattening goes
down the references and branches of the finitely many schemas that a body contains
(`ends_of_isAcyclicBelow`).

A step of flattening (`Spec.TakesApart`) goes no deeper than eight names
(`TakesApart.length_keys_le`), and the arguments of what it comes to are among those of the schema, or
have their signatures (`TakesApart.exists_found`).  A run of steps does the same
(`exists_found_of_run`), so that an object at the greatest depth is one dictionary of the tool
(`Spec.tool?_of_isAcyclic`).
-/

namespace ApiTools

open Document Relation

namespace Spec

variable {spec : Spec} {op : Operation} {schema part start : Document} {place : BodyPlace}
  {arguments : List Argument} {a : Argument} {steps depth : Nat}

/-! ### What schemas contain -/

/-- What a schema is composed of: the node that it refers to, and its branches. -/
def IsComposedOf (spec : Spec) (schema part : Document) : Prop :=
  spec.next? schema = some part ∨ part ∈ branches schema

/-- What a schema contains: what it is composed of, and the schemas of its properties. -/
def Contains (spec : Spec) (schema part : Document) : Prop :=
  spec.IsComposedOf schema part ∨
    ∃ properties, schema.getMembers? "properties" = some properties ∧
      ∃ entry ∈ properties, part = entry.2

/-- No schema that the document contains reaches itself through references and branches alone. -/
def IsAcyclicBelow (spec : Spec) (start : Document) : Prop :=
  ∀ schema, ReflTransGen spec.Contains start schema →
    ¬ TransGen spec.IsComposedOf schema schema

/-- No schema of a body reaches itself through references and branches alone; through properties it
may. -/
def IsAcyclic (spec : Spec) : Prop :=
  ∀ op ∈ spec.operations, ∀ body ∈ spec.bodies op, spec.IsAcyclicBelow body.1

theorem ChainsTo.reaches {hops : Nat} (h : spec.ChainsTo hops schema part) :
    ReflTransGen spec.IsComposedOf schema part := by
  induction h with
  | here => exact .refl
  | hop href htarget _ ih => exact .head (.inl (next?_eq_some_iff.mpr ⟨_, href, htarget⟩)) ih

theorem reaches_resolveWithin (spec : Spec) (bound : Nat) (schema : Document) :
    ReflTransGen spec.IsComposedOf schema (spec.resolveWithin bound schema) := by
  obtain ⟨hops, -, hchain, -⟩ := spec.chainsTo_resolveWithin bound schema
  exact hchain.reaches

/-- What composed schemas lead to is contained. -/
theorem contains_of_composed (h : ReflTransGen spec.IsComposedOf schema part) :
    ReflTransGen spec.Contains schema part :=
  h.lift id fun _ _ => .inl

theorem contains_resolve (h : ReflTransGen spec.Contains start schema) :
    ReflTransGen spec.Contains start (spec.resolve schema) :=
  h.trans (contains_of_composed (spec.reaches_resolveWithin maxHops schema))

theorem Contains.mem_parts (h : spec.Contains schema part) :
    part ∈ schema.parts ∨ part ∈ spec.root.parts := by
  rcases h with (hnext | hbranch) | ⟨properties, hproperties, entry, hentry, rfl⟩
  · obtain ⟨reference, -, htarget⟩ := next?_eq_some_iff.mp hnext
    exact .inr (mem_parts_of_target? htarget)
  · exact .inl (mem_parts_of_mem_branches hbranch)
  · exact .inl (mem_parts_of_getMembers? hproperties hentry)

/-- A document contains finitely many schemas. -/
theorem finite_contained (spec : Spec) (start : Document) :
    {schema | ReflTransGen spec.Contains start schema}.Finite := by
  refine (List.finite_toSet (start.parts ++ spec.root.parts)).subset fun schema h => ?_
  show schema ∈ start.parts ++ spec.root.parts
  induction h with
  | refl => exact List.mem_append_left _ (self_mem_parts start)
  | tail _ hstep ih =>
    rw [List.mem_append] at ih ⊢
    rcases hstep.mem_parts with hpart | hroot
    · exact ih.imp (mem_parts_trans _ hpart) (mem_parts_trans _ hpart)
    · exact .inr hroot

/-- Without cycles, what holds of a schema when it holds of all those that it is composed of holds
of every schema that is contained. -/
theorem IsAcyclicBelow.induction {Holds : Document → Prop} (hacyclic : spec.IsAcyclicBelow start)
    (hstep : ∀ schema, ReflTransGen spec.Contains start schema →
      (∀ part, TransGen spec.IsComposedOf schema part → Holds part) → Holds schema) :
    ∀ schema, ReflTransGen spec.Contains start schema → Holds schema := by
  intro schema hschema
  let Contained := {schema // ReflTransGen spec.Contains start schema}
  let Below (part schema : Contained) : Prop := TransGen spec.IsComposedOf schema.1 part.1
  have : Finite Contained := spec.finite_contained start
  have : IsTrans Contained Below := ⟨fun _ _ _ hlower hupper => hupper.trans hlower⟩
  have : Std.Irrefl Below := ⟨fun schema => hacyclic schema.1 schema.2⟩
  have hwellFounded : WellFounded Below := Finite.wellFounded_of_trans_of_irrefl Below
  let node : Contained := ⟨schema, hschema⟩
  show Holds node.1
  induction node using hwellFounded.induction with
  | _ node ih =>
    refine hstep node.1 node.2 fun part hpart => ?_
    have hcontained := node.2.trans (contains_of_composed hpart.to_reflTransGen)
    exact ih ⟨part, hcontained⟩ hpart

/-- There is no cycle where a rank falls from each schema to all those that it is composed of. -/
theorem isAcyclicBelow_of_rank (schemas : List Document) (rank : Document → Nat)
    (hstart : start ∈ schemas)
    (hcontains : ∀ schema ∈ schemas, ∀ part, spec.Contains schema part → part ∈ schemas)
    (hrank : ∀ schema ∈ schemas, ∀ part, spec.IsComposedOf schema part → rank part < rank schema) :
    spec.IsAcyclicBelow start := by
  have hlower : ∀ schema ∈ schemas, ∀ part, TransGen spec.IsComposedOf schema part →
      part ∈ schemas ∧ rank part < rank schema := by
    intro schema hschema part hpart
    induction hpart with
    | single h => exact ⟨hcontains _ hschema _ (.inl h), hrank _ hschema _ h⟩
    | tail _ h ih => exact ⟨hcontains _ ih.1 _ (.inl h), (hrank _ ih.1 _ h).trans ih.2⟩
  have hmem : ∀ schema, ReflTransGen spec.Contains start schema → schema ∈ schemas := by
    intro schema hschema
    induction hschema with
    | refl => exact hstart
    | tail _ h ih => exact hcontains _ ih _ h
  intro schema hschema hcycle
  exact lt_irrefl _ (hlower schema (hmem schema hschema) schema hcycle).2

/-! ### Flattening comes to an end -/

/-- Flattening of the schema at the depth comes to an end. -/
def Ends (spec : Spec) (schema : Document) (depth : Nat) : Prop :=
  ∃ steps, DoneWithin spec.continuations steps (schema, depth)

/-- Flattening of the properties of the schema comes to an end, where it goes on with them. -/
def PropertiesEnd (spec : Spec) (schema : Document) (depth : Nat) : Prop :=
  depth < maxBodyDepth → ∀ {properties}, schema.getMembers? "properties" = some properties →
    ∀ entry ∈ properties, spec.Ends entry.2 (depth + 1)

/-- Flattening comes to an end where it does for all that the resolved schema goes on with. -/
theorem ends_iff : spec.Ends schema depth ↔
    ∀ state ∈ continuationsOf (spec.resolve schema) depth, spec.Ends state.1 state.2 :=
  exists_doneWithin_iff

theorem next?_withoutBranches (schema : Document) :
    spec.next? (withoutBranches schema) = spec.next? schema := by
  rw [next?, next?, getText?, getText?, get?_withoutBranches, if_neg (by decide)]

/-- Without its branches a schema goes on with its properties, or it is a reference still and goes on
with what that leads to. -/
theorem ends_withoutBranches (hproperties : spec.PropertiesEnd schema depth)
    (hparts : ∀ part, TransGen spec.IsComposedOf schema part →
      ∀ state ∈ continuationsOf part depth, spec.Ends state.1 state.2) :
    spec.Ends (withoutBranches schema) depth := by
  have hsame := spec.next?_withoutBranches schema
  rw [ends_iff]
  cases hnext : spec.next? schema with
  | some target =>
    rw [hnext] at hsame
    rw [resolve_of_next? hsame]
    exact hparts _ (.head' (.inl hnext) (spec.reaches_resolveWithin _ target))
  | none =>
    rw [hnext] at hsame
    rw [resolve_of_isEnd (isEnd_iff.mpr hsame)]
    rintro ⟨next, nextDepth⟩ hstate
    rcases mem_continuationsOf hstate with
      ⟨-, hne, -⟩ | ⟨rfl, hdepth, properties, hget, entry, hentry, rfl⟩
    · exact absurd (branches_withoutBranches schema) hne
    · rw [getMembers?, get?_withoutBranches, if_neg (by decide)] at hget
      exact hproperties hdepth hget entry hentry

/-- One depth comes to an end where the next one does. -/
theorem ends_of_below (hacyclic : spec.IsAcyclicBelow start)
    (hbelow : depth < maxBodyDepth → ∀ part, ReflTransGen spec.Contains start part →
      spec.Ends part (depth + 1))
    (hschema : ReflTransGen spec.Contains start schema) : spec.Ends schema depth := by
  -- going down references and branches carries the claim about what a resolved schema goes on with
  have hall : ∀ schema, ReflTransGen spec.Contains start schema →
      ∀ state ∈ continuationsOf schema depth, spec.Ends state.1 state.2 := by
    refine hacyclic.induction ?_
    intro schema hschema ih
    have hproperties : spec.PropertiesEnd schema depth := fun hdepth _ hget entry hentry =>
      hbelow hdepth _ (hschema.tail (.inr ⟨_, hget, entry, hentry, rfl⟩))
    rintro ⟨next, nextDepth⟩ hstate
    rcases mem_continuationsOf hstate with
      ⟨rfl, -, rfl | hbranch⟩ | ⟨rfl, hdepth, properties, hget, entry, hentry, rfl⟩
    · exact ends_withoutBranches hproperties ih
    · exact ends_iff.mpr
        (ih _ (.head' (.inr hbranch) (spec.reaches_resolveWithin maxHops next)))
    · exact hproperties hdepth hget entry hentry
  exact ends_iff.mpr (hall _ (contains_resolve hschema))

/-- Flattening of every schema that is contained comes to an end, at every depth. -/
theorem ends_of_isAcyclicBelow (hacyclic : spec.IsAcyclicBelow start) (levels : Nat)
    (hlevels : depth + levels = maxBodyDepth) (hschema : ReflTransGen spec.Contains start schema) :
    spec.Ends schema depth := by
  induction levels generalizing depth schema with
  | zero =>
    have hdeepest : ¬ depth < maxBodyDepth := by omega
    exact ends_of_below hacyclic (fun hdepth => absurd hdepth hdeepest) hschema
  | succ levels ih => exact ends_of_below hacyclic (fun _ _ => ih (by omega)) hschema

theorem exists_flatten_of_isAcyclicBelow (hacyclic : spec.IsAcyclicBelow schema)
    (hplace : place.keys.length ≤ maxBodyDepth) :
    ∃ arguments, spec.flatten schema place = some arguments := by
  obtain ⟨steps, hdone⟩ := ends_of_isAcyclicBelow hacyclic
    (maxBodyDepth - place.keys.length) (Nat.add_sub_cancel' hplace) .refl
  rw [← isSome_flattenWithin] at hdone
  obtain ⟨arguments, harguments⟩ := Option.isSome_iff_exists.mp hdone
  exact ⟨arguments, (flatten_eq_some_iff hplace).mpr ⟨steps, harguments⟩⟩

theorem isSome_parameterArguments {parameter : Document}
    (h : ∀ body ∈ parameterBody? parameter, (spec.flatten body.1 body.2).isSome = true) :
    (spec.parameterArguments parameter).isSome = true := by
  unfold parameterArguments
  split
  · rfl
  · next name hname =>
    split
    case h_3 hin =>
      have hbody : parameterBody? parameter = some (parameterSchema parameter,
          .root (isRequiredParameter parameter) (parameter.trimmedText "description")) := by
        simp only [parameterBody?, hname, hin]
      exact (h _ hbody :)
    all_goals rfl

theorem isSome_bodyArguments
    (h : ∀ body ∈ spec.requestBody? op, (spec.flatten body.1 body.2).isSome = true) :
    (spec.bodyArguments op).isSome = true := by
  unfold bodyArguments
  split
  · rfl
  · next body hbody =>
    dsimp only
    split
    · rfl
    · next schema hschema =>
      have hgiven : spec.requestBody? op = some (schema,
          .root (isRequiredParameter (spec.resolve body))
            ((spec.resolve body).trimmedText "description")) := by
        rw [requestBody?, hbody, Option.bind_some, hschema, Option.map_some]
      exact (h _ hgiven :)

/-- An operation has a tool where all its bodies have arguments. -/
theorem exists_tool?_of_bodies
    (h : ∀ body ∈ spec.bodies op, (spec.flatten body.1 body.2).isSome = true) :
    ∃ tool, spec.tool? op = some tool := by
  unfold bodies at h
  rw [List.forall_mem_append] at h
  obtain ⟨hparameters, hrequest⟩ := h
  have hfound : ((spec.mergedParameters op).mapM spec.parameterArguments).isSome = true := by
    rw [isSome_mapM]
    intro parameter hparameter
    refine isSome_parameterArguments fun body hbody => ?_
    exact hparameters body (List.mem_filterMap.mpr ⟨parameter, hparameter, hbody⟩)
  have hown := isSome_bodyArguments fun body hbody => hrequest body (Option.mem_toList.mpr hbody)
  obtain ⟨found, hfound⟩ := Option.isSome_iff_exists.mp hfound
  obtain ⟨own, hown⟩ := Option.isSome_iff_exists.mp hown
  -- a tool has the arguments that its operation gives, and there is one where these are found
  have hmap := spec.map_arguments_tool? op
  rw [metArguments, hfound, hown] at hmap
  obtain ⟨tool, htool, -⟩ := Option.map_eq_some_iff.mp hmap
  exact ⟨tool, htool⟩

/-! ### Steps through a body -/

/-- The schema stands at the place in a body, as flattening of the body meets it. -/
def IsMetAt (spec : Spec) (body : Document × BodyPlace) (schema : Document) (place : BodyPlace) :
    Prop :=
  ReflTransGen spec.TakesApart body (schema, place)

/-- At most eight names lead to a place. -/
theorem TakesApart.length_keys_le {state next : Document × BodyPlace}
    (h : spec.TakesApart state next) (hstate : state.2.keys.length ≤ maxBodyDepth) :
    next.2.keys.length ≤ maxBodyDepth := by
  cases h with
  | own | branch =>
    rw [keys_describe]
    exact hstate
  | property _ _ hdepth =>
    rw [length_keys_property, keys_describe]
    exact hdepth

/-- At most eight names lead to an argument. -/
theorem length_keys_le_of_mem (h : spec.flattenWithin steps schema place = some arguments)
    (hplace : place.keys.length ≤ maxBodyDepth) (ha : a ∈ arguments) :
    a.keys.length ≤ maxBodyDepth := by
  induction steps generalizing schema place arguments with
  | zero => cases h
  | succ steps ih =>
    rcases exists_takesApart_of_mem h ha with ⟨hint, rfl⟩ | ⟨next, inner, found, hstep, hfound, ha⟩
    · rw [BodyPlace.argument, keys_describe]
      exact hplace
    · exact ih hfound (hstep.length_keys_le hplace) ha

/-- The arguments of a schema that a step comes to are among those of the schema, or have their
signatures. -/
theorem TakesApart.exists_found {state next : Document × BodyPlace}
    (hstep : spec.TakesApart state next)
    (h : spec.flattenWithin (steps + 1) state.1 state.2 = some arguments) :
    ∃ found, spec.flattenWithin steps next.1 next.2 = some found ∧
      ∀ a ∈ found, ∃ b ∈ arguments, b.signature = a.signature := by
  cases hstep with
  | own hcomposed hproperties =>
    dsimp only at h ⊢
    obtain ⟨own, found, hown, -, rfl⟩ := flattenWithin_of_composed hcomposed h
    rw [if_pos hproperties] at hown
    exact ⟨own, hown, fun a ha => ⟨a, mem_foldl_addArguments_of_mem ha, rfl⟩⟩
  | branch hcomposed hbranch =>
    dsimp only at h ⊢
    obtain ⟨own, found, -, hfound, rfl⟩ := flattenWithin_of_composed hcomposed h
    obtain ⟨more, hmore, hgiven⟩ := exists_mem_of_mapM hfound hbranch
    exact ⟨more, hgiven, fun a ha => exists_signature_foldl_addArguments own hmore ha⟩
  | @property schema place properties entry hfields hentry hdepth =>
    dsimp only at h ⊢
    have hnot : bodyShape (spec.resolve schema) ≠ .composed := by
      rw [hfields]
      exact BodyShape.noConfusion
    rw [flattenWithin_of_not_composed hnot, partArguments] at h
    simp only [hfields, keys_describe, if_pos hdepth] at h
    obtain ⟨found, hfound, rfl⟩ := Option.map_eq_some_iff.mp h
    obtain ⟨more, hmore, hgiven⟩ := exists_mem_of_mapM hfound hentry
    exact ⟨more, hgiven, fun a ha => ⟨a, List.mem_flatten_of_mem hmore ha, rfl⟩⟩

/-- So are the arguments of every schema that a run of steps comes to. -/
theorem exists_found_of_run {body state : Document × BodyPlace}
    (hrun : ReflTransGen spec.TakesApart body state)
    (h : spec.flattenWithin steps body.1 body.2 = some arguments) :
    ∃ fewer found, spec.flattenWithin fewer state.1 state.2 = some found ∧
      ∀ a ∈ found, ∃ b ∈ arguments, b.signature = a.signature := by
  induction hrun with
  | refl => exact ⟨steps, arguments, h, fun a ha => ⟨a, ha, rfl⟩⟩
  | tail _ hstep ih =>
    obtain ⟨fewer, found, hfound, hall⟩ := ih
    cases fewer with
    | zero => cases hfound
    | succ fewer =>
      obtain ⟨more, hmore, hsame⟩ := hstep.exists_found hfound
      refine ⟨fewer, more, hmore, fun a ha => ?_⟩
      obtain ⟨b, hb, hba⟩ := hsame a ha
      obtain ⟨c, hc, hcb⟩ := hall b hb
      exact ⟨c, hc, hcb.trans hba⟩

/-! ### Objects at the greatest depth -/

/-- The resolved schema is one of objects, neither a choice of values nor composed. -/
structure IsPlainObject (schema : Document) : Prop where
  object : schemaType? schema = some "object" ∨ (schema.getMembers? "properties").isSome = true
  enum : schema.has "enum" = false
  composition : ∀ key ∈ compositionKeys, schema.has key = false

theorem IsPlainObject.bodyShape (h : IsPlainObject schema) :
    (∃ properties, bodyShape schema = .fields properties) ∨ bodyShape schema = .dictionary := by
  have hbranches : branches schema = [] := by
    refine List.flatMap_eq_nil_iff.mpr fun key hkey => ?_
    have hnone : schema.get? key = none := by simpa [has] using h.composition key hkey
    rw [getItems?, hnone]
    rfl
  have hobject : ((schemaType? schema == some "object" || (schema.getMembers? "properties").isSome)
      && !schema.has "enum") = true := by
    simpa [h.enum] using h.object
  rw [Spec.bodyShape, if_neg (by simp [hbranches]), if_pos hobject]
  split
  · exact .inl ⟨_, rfl⟩
  · exact .inr rfl

/-- The argument for a whole object at a place. -/
def dictionaryArgument (spec : Spec) (schema : Document) (place : BodyPlace) : Argument :=
  (place.describe (spec.resolve schema)).argument .dict

/-- At the greatest depth an object is one dictionary. -/
theorem flattenWithin_of_isPlainObject (hplace : place.keys.length = maxBodyDepth)
    (h : IsPlainObject (spec.resolve schema)) (steps : Nat) :
    spec.flattenWithin (steps + 1) schema place = some [spec.dictionaryArgument schema place] := by
  rw [flattenWithin_succ, dictionaryArgument]
  rcases h.bodyShape with ⟨properties, hshape⟩ | hshape
  · simp only [hshape, keys_describe, hplace, lt_irrefl, if_false]
  · simp only [hshape]

/-- Where no schema reaches itself through references and branches alone, every operation has a
tool.  At most eight names lead to each argument of a body, and a plain object to which eight names
lead has one argument, a dictionary: the tool has it, or one with its signature. -/
theorem tool?_of_isAcyclic (spec : Spec) (hacyclic : spec.IsAcyclic) :
    (∃ tools, spec.tools? = some tools) ∧
    ∀ op ∈ spec.operations, ∃ tool, spec.tool? op = some tool ∧
      (∀ a ∈ tool.arguments, a.location = .body → a.keys.length ≤ 8) ∧
      ∀ body ∈ spec.bodies op, ∀ schema place, spec.IsMetAt body schema place →
        place.keys.length = 8 → IsPlainObject (spec.resolve schema) →
          spec.flatten schema place = some [spec.dictionaryArgument schema place] ∧
          ∃ a ∈ tool.bodyArguments,
            a.signature = (spec.dictionaryArgument schema place).signature := by
  have hroot : ∀ op, ∀ body ∈ spec.bodies op, body.2.keys.length ≤ maxBodyDepth := by
    intro op body hbody
    obtain ⟨required, description, hplace⟩ := root_of_mem_bodies hbody
    rw [hplace]
    exact Nat.zero_le _
  have htools : ∀ op ∈ spec.operations, ∃ tool, spec.tool? op = some tool := by
    intro op hop
    refine exists_tool?_of_bodies fun body hbody => Option.isSome_iff_exists.mpr ?_
    exact exists_flatten_of_isAcyclicBelow (hacyclic op hop body hbody) (hroot op body hbody)
  refine ⟨?_, fun op hop => ?_⟩
  · exact Option.isSome_iff_exists.mp ((isSome_mapM ..).mpr fun op hop =>
      Option.isSome_iff_exists.mpr (htools op hop))
  · obtain ⟨tool, htool⟩ := htools op hop
    obtain ⟨found, hfound, hperm⟩ := gives_of_tool? htool
    refine ⟨tool, htool, fun a ha hin => ?_, fun body hbody schema place hmet hplace hobject => ?_⟩
    · have hbody : a ∈ tool.bodyArguments := List.mem_filter.mpr ⟨ha, by simpa using hin⟩
      obtain ⟨arguments, harguments, ha⟩ := List.mem_flatten.mp (hperm.mem_iff.mp hbody)
      obtain ⟨body, hbody, hgiven⟩ := hfound.exists_body harguments
      exact length_keys_le_of_mem hgiven (hroot op body hbody) ha
    · obtain ⟨arguments, harguments, hgiven⟩ := hfound.exists_arguments hbody
      obtain ⟨fewer, own, hown, hall⟩ := exists_found_of_run hmet hgiven
      have hwhole := flattenWithin_of_isPlainObject hplace hobject
      refine ⟨(flatten_eq_some_iff (le_of_eq hplace)).mpr ⟨_, hwhole 0⟩, ?_⟩
      cases fewer with
      | zero => cases hown
      | succ fewer =>
        rw [hwhole, Option.some.injEq] at hown
        obtain ⟨a, ha, hsame⟩ := hall _ (hown ▸ List.mem_singleton_self _)
        exact ⟨a, hperm.mem_iff.mpr (List.mem_flatten_of_mem harguments ha), hsame⟩

/-- A reference to a node of a list that is linked through a property. -/
def nodeRef : Document := .object [("$ref", .text "#/components/schemas/Node")]

/-- What a node has: the next one. -/
def nodeFields : Document := .object [("type", .text "object"),
  ("properties", .object [("next", nodeRef)])]

/-- A node. -/
def node : Document := .object [("allOf", .list [nodeFields])]

/-- A description with an operation that takes a linked list. -/
def nodeSpec : Spec := ⟨.object [
  ("paths", .object [("/nodes", .object [("post", .object [("requestBody", .object [("content",
    .object [("application/json", .object [("schema", nodeRef)])])])])])]),
  ("components", .object [("schemas", .object [("Node", node)])])]⟩

/-- The place of a node with the given number of nodes before it. -/
def nodePlace : Nat → BodyPlace
  | 0 => .root false ""
  | nodes + 1 => (nodePlace nodes).property "next" false

/-- A node contains itself through its property only. -/
theorem isAcyclic_nodeSpec : nodeSpec.IsAcyclic := by
  have hbodies : ∀ op ∈ nodeSpec.operations, nodeSpec.bodies op = [(nodeRef, nodePlace 0)] := by
    have hone : nodeSpec.operations = [⟨"/nodes", .post, _, _⟩] := rfl
    rw [hone, List.forall_mem_singleton]
    rfl
  have href {part : Document} : nodeSpec.IsComposedOf nodeRef part → part = node := by
    rintro (h | h)
    · exact (Option.some.inj (h : some node = some part)).symm
    · exact absurd (h : part ∈ []) List.not_mem_nil
  have hnode {part : Document} : nodeSpec.IsComposedOf node part → part = nodeFields := by
    rintro (h | h)
    · cases h
    · exact List.mem_singleton.mp h
  have hfields {part : Document} : ¬ nodeSpec.IsComposedOf nodeFields part := by
    rintro (h | h)
    · cases h
    · exact absurd (h : part ∈ []) List.not_mem_nil
  intro op hop body hbody
  rw [hbodies op hop, List.mem_singleton] at hbody
  subst hbody
  refine isAcyclicBelow_of_rank [nodeRef, node, nodeFields]
    (fun schema => if schema.has "$ref" then 2 else if schema.has "allOf" then 1 else 0)
    (by simp) ?_ ?_
  · rw [List.forall_mem_cons, List.forall_mem_cons, List.forall_mem_singleton]
    refine ⟨?_, ?_, ?_⟩
    · rintro part (h | ⟨properties, h, -⟩)
      · simp [href h]
      · cases h
    · rintro part (h | ⟨properties, h, -⟩)
      · simp [hnode h]
      · cases h
    · rintro part (h | ⟨properties, h, entry, hentry, rfl⟩)
      · exact absurd h hfields
      · cases h
        simp [List.mem_singleton.mp hentry]
  · rw [List.forall_mem_cons, List.forall_mem_cons, List.forall_mem_singleton]
    refine ⟨fun part h => ?_, fun part h => ?_, fun part h => absurd h hfields⟩
    · rw [href h]
      decide
    · rw [hnode h]
      decide

theorem keys_nodePlace (nodes : Nat) : (nodePlace nodes).keys.length = nodes := by
  induction nodes with
  | zero => rfl
  | succ nodes ih => rw [nodePlace, length_keys_property, ih]

theorem isMetAt_nodePlace (nodes : Nat) (h : nodes ≤ maxBodyDepth) :
    nodeSpec.IsMetAt (nodeRef, nodePlace 0) nodeRef (nodePlace nodes) := by
  induction nodes with
  | zero => exact .refl
  | succ nodes ih =>
    have hbranch : nodeSpec.TakesApart (nodeRef, nodePlace nodes) (nodeFields, nodePlace nodes) :=
      .branch rfl (List.mem_singleton_self nodeFields)
    have hdepth : (nodePlace nodes).keys.length < maxBodyDepth := by
      rw [keys_nodePlace]
      omega
    have hproperty : nodeSpec.TakesApart (nodeFields, nodePlace nodes)
        (nodeRef, nodePlace (nodes + 1)) :=
      @TakesApart.property nodeSpec nodeFields (nodePlace nodes) _ ("next", nodeRef) rfl
        (List.mem_singleton_self _) hdepth
    exact ((ih (by omega)).tail hbranch).tail hproperty

/-- The ninth node is a dictionary in the body of the first one. -/
theorem tool?_of_isAcyclic_node :
    nodeSpec.IsAcyclic ∧ ∃ op ∈ nodeSpec.operations, ∃ tool, nodeSpec.tool? op = some tool ∧
      (∀ a ∈ tool.arguments, a.location = .body → a.keys.length ≤ 8) ∧
      nodeSpec.IsMetAt (nodeRef, nodePlace 0) nodeFields (nodePlace 8) ∧
      IsPlainObject (nodeSpec.resolve nodeFields) ∧
      nodeSpec.flatten nodeFields (nodePlace 8)
        = some [nodeSpec.dictionaryArgument nodeFields (nodePlace 8)] ∧
      ∃ a ∈ tool.bodyArguments, a.signature
        = "body_next__next__next__next__next__next__next__next: Dict[str, Any] = None" := by
  obtain ⟨-, htools⟩ := nodeSpec.tool?_of_isAcyclic isAcyclic_nodeSpec
  have hop : ⟨"/nodes", .post, _, _⟩ ∈ nodeSpec.operations := List.mem_cons_self ..
  obtain ⟨tool, htool, hkeys, hobjects⟩ := htools _ hop
  have hmet : nodeSpec.IsMetAt (nodeRef, nodePlace 0) nodeFields (nodePlace 8) :=
    (isMetAt_nodePlace 8 le_rfl).tail (.branch rfl (List.mem_singleton_self nodeFields))
  have hplain : IsPlainObject (nodeSpec.resolve nodeFields) :=
    ⟨.inl (by decide), by decide, by decide⟩
  obtain ⟨hflatten, a, ha, hsignature⟩ := hobjects (nodeRef, nodePlace 0)
    (List.mem_singleton_self _) nodeFields (nodePlace 8) hmet (keys_nodePlace 8) hplain
  have htext : (nodeSpec.dictionaryArgument nodeFields (nodePlace 8)).signature
      = "body_next__next__next__next__next__next__next__next: Dict[str, Any] = None" := by
    decide +kernel
  exact ⟨isAcyclic_nodeSpec, _, hop, tool, htool, hkeys, hmet, hplain, hflatten, a, ha,
    hsignature.trans htext⟩

end Spec

end ApiTools
