import ApiTools.Proofs.Spec.Merged
import ApiTools.Proofs.Tool.Met

/-!
# Arguments of nested objects

Where no schema that flattening reaches has branches, each end of the objects in one another has one
argument, and it must be given exactly where each object on the way to it requires the next property
(`Spec.flatten_nested`).  The flag that is handed down from place to place is taken apart by
induction on the steps (`isRequired_of_mem_flattenWithin`), after one lemma on what a step can do
without branches (`flattenWithin_uncomposed`).
-/

namespace ApiTools

open Document

namespace Spec

variable {spec : Spec} {schema property : Document} {place : BodyPlace}
  {arguments : List Argument} {a : Argument} {steps depth : Nat} {name : String}
  {names : List String}

/-! ### Ways through properties -/

/-- The properties by which a schema is taken apart. -/
def fieldsOf (schema : Document) : Members :=
  match bodyShape schema with
  | .fields properties => properties
  | _ => []

/-- The schema that names of properties lead to, with references followed at each of them. -/
def schemaAt? (spec : Spec) : Document → List String → Option Document
  | schema, [] => some (spec.resolve schema)
  | schema, name :: rest =>
    (Members.get? (fieldsOf (spec.resolve schema)) name).bind (schemaAt? spec · rest)

/-- Does no schema have branches that the names of properties lead to, as deep as bodies are
flattened? -/
def IsUncomposed (spec : Spec) (schema : Document) (depth : Nat) : Prop :=
  ∀ names node, depth + names.length ≤ maxBodyDepth →
    spec.schemaAt? schema names = some node → branches node = []

/-- Is each of the names required by the object that has it as a property? -/
def RequiresAll (spec : Spec) (schema : Document) (names : List String) : Prop :=
  ∀ before name after, names = before ++ name :: after →
    ∃ node, spec.schemaAt? schema before = some node ∧ name ∈ requiredNames node

/-- Do the names lead to a schema that is not taken apart? -/
def LeadsToEnd (spec : Spec) (schema : Document) (depth : Nat) (names : List String) : Prop :=
  depth + names.length ≤ maxBodyDepth ∧ ∃ node, spec.schemaAt? schema names = some node ∧
    (fieldsOf node = [] ∨ depth + names.length = maxBodyDepth)

theorem schemaAt?_cons (hget : Members.get? (fieldsOf (spec.resolve schema)) name = some property)
    (rest : List String) : spec.schemaAt? schema (name :: rest) = spec.schemaAt? property rest := by
  rw [schemaAt?, hget, Option.bind_some]

theorem requiresAll_nil (spec : Spec) (schema : Document) : spec.RequiresAll schema [] := by
  intro before name after h
  simp at h

theorem requiresAll_cons (hget : Members.get? (fieldsOf (spec.resolve schema)) name = some property)
    (rest : List String) : spec.RequiresAll schema (name :: rest) ↔
      name ∈ requiredNames (spec.resolve schema) ∧ spec.RequiresAll property rest := by
  constructor
  · intro h
    constructor
    · obtain ⟨node, hnode, hrequired⟩ := h [] name rest rfl
      cases hnode
      exact hrequired
    · rintro before next after rfl
      obtain ⟨node, hnode, hrequired⟩ := h (name :: before) next after rfl
      rw [schemaAt?_cons hget] at hnode
      exact ⟨node, hnode, hrequired⟩
  · rintro ⟨hfirst, hrest⟩ before next after heq
    cases before with
    | nil =>
      obtain ⟨rfl, rfl⟩ := List.cons.inj heq
      exact ⟨_, rfl, hfirst⟩
    | cons head before =>
      obtain ⟨rfl, rfl⟩ := List.cons.inj heq
      obtain ⟨node, hnode, hrequired⟩ := hrest before next after rfl
      exact ⟨node, (schemaAt?_cons hget before).trans hnode, hrequired⟩

theorem leadsToEnd_cons (hget : Members.get? (fieldsOf (spec.resolve schema)) name = some property)
    (depth : Nat) (rest : List String) : spec.LeadsToEnd schema depth (name :: rest) ↔
      spec.LeadsToEnd property (depth + 1) rest := by
  unfold LeadsToEnd
  rw [schemaAt?_cons hget, List.length_cons, Nat.add_right_comm, Nat.add_assoc depth]

/-- A schema that is taken apart, as deep as bodies are flattened, is no end itself. -/
theorem leadsToEnd_nil : spec.LeadsToEnd schema depth [] ↔
    depth ≤ maxBodyDepth ∧ (fieldsOf (spec.resolve schema) = [] ∨ depth = maxBodyDepth) := by
  unfold LeadsToEnd schemaAt?
  simp

theorem mem_parts_of_mem_fieldsOf {entry : String × Document} (h : entry ∈ fieldsOf schema) :
    entry.2 ∈ schema.parts := by
  unfold fieldsOf at h
  split at h
  · next hshape => exact mem_parts_of_getMembers? (getMembers?_of_bodyShape hshape) h
  · cases h

theorem nodup_keys_fieldsOf (h : schema.HasDistinctKeys) :
    (Members.keys (fieldsOf schema)).Nodup := by
  unfold fieldsOf
  split
  · next properties hshape =>
    obtain ⟨value, hvalue, hmembers⟩ :=
      Option.bind_eq_some_iff.mp (getMembers?_of_bodyShape hshape)
    have hdistinct := h value (mem_parts_of_get? hvalue)
    rwa [show value.members? = some properties from hmembers] at hdistinct
  · exact List.nodup_nil

theorem resolve_mem_parts (spec : Spec) (schema : Document) :
    spec.resolve schema ∈ schema.parts ∨ spec.resolve schema ∈ spec.root.parts := by
  rcases spec.resolve_mem schema with hsame | hpart
  · rw [hsame]
    exact .inl (self_mem_parts schema)
  · exact .inr hpart

/-- Names lead to parts of the schema they start at and of the document. -/
theorem mem_parts_of_schemaAt? {node : Document} (h : spec.schemaAt? schema names = some node) :
    node ∈ schema.parts ∨ node ∈ spec.root.parts := by
  induction names generalizing schema with
  | nil => exact Option.some.inj h ▸ spec.resolve_mem_parts schema
  | cons name rest ih =>
    obtain ⟨property, hget, hnode⟩ := Option.bind_eq_some_iff.mp h
    rcases ih hnode with hpart | hroot
    · have hbelow : node ∈ (spec.resolve schema).parts :=
        mem_parts_trans _ hpart (mem_parts_of_mem_fieldsOf (Members.mem_of_get? hget))
      exact (spec.resolve_mem_parts schema).imp
        (mem_parts_trans _ hbelow) (mem_parts_trans _ hbelow)
    · exact .inr hroot

theorem isUncomposed_of_parts (hschema : ∀ part ∈ schema.parts, branches part = [])
    (hroot : ∀ part ∈ spec.root.parts, branches part = []) (depth : Nat) :
    spec.IsUncomposed schema depth := by
  intro names node _ hnode
  rcases mem_parts_of_schemaAt? hnode with hpart | hpart
  · exact hschema node hpart
  · exact hroot node hpart

/-! ### Schemas without branches -/

/-- A schema at a depth that is flattened, with distinct keys and without branches below. -/
structure IsPlainAt (spec : Spec) (schema : Document) (depth : Nat) : Prop where
  distinct : schema.HasDistinctKeys
  uncomposed : spec.IsUncomposed schema depth
  depth_le : depth ≤ maxBodyDepth

namespace IsPlainAt

theorem branches_resolve (h : spec.IsPlainAt schema depth) : branches (spec.resolve schema) = [] :=
  h.uncomposed [] _ (by simpa using h.depth_le) rfl

theorem nodup_keys (hroot : spec.root.HasDistinctKeys) (h : spec.IsPlainAt schema depth) :
    (Members.keys (fieldsOf (spec.resolve schema))).Nodup :=
  nodup_keys_fieldsOf (hasDistinctKeys_resolve hroot h.distinct)

theorem get?_of_mem (hroot : spec.root.HasDistinctKeys) (h : spec.IsPlainAt schema depth)
    {entry : String × Document} (hentry : entry ∈ fieldsOf (spec.resolve schema)) :
    Members.get? (fieldsOf (spec.resolve schema)) entry.1 = some entry.2 :=
  Members.get?_of_mem (h.nodup_keys hroot) hentry

/-- The schema of a property is one that is as plain, at the next depth. -/
theorem below (hroot : spec.root.HasDistinctKeys) (h : spec.IsPlainAt schema depth)
    (hdepth : depth < maxBodyDepth) {entry : String × Document}
    (hentry : entry ∈ fieldsOf (spec.resolve schema)) : spec.IsPlainAt entry.2 (depth + 1) := by
  refine ⟨fun part hpart => ?_, fun names node hlength hnode => ?_, hdepth⟩
  · have hmem := mem_parts_trans _ hpart (mem_parts_of_mem_fieldsOf hentry)
    exact hasDistinctKeys_resolve hroot h.distinct part hmem
  · refine h.uncomposed (entry.1 :: names) node ?_ ?_
    · rw [List.length_cons]
      omega
    · rw [schemaAt?_cons (h.get?_of_mem hroot hentry), hnode]

end IsPlainAt

/-! ### One step -/

@[simp] theorem property_describe (place : BodyPlace) (schema : Document) (name : String)
    (required : Bool) :
    (place.describe schema).property name required = place.property name required := by
  unfold BodyPlace.describe
  split <;> rfl

/-- A schema without branches has the arguments of its properties, or one of its own where it has
none or is as deep as bodies are flattened. -/
theorem flattenWithin_uncomposed (hbranches : branches (spec.resolve schema) = [])
    (h : spec.flattenWithin (steps + 1) schema place = some arguments) :
    (place.keys.length < maxBodyDepth ∧ fieldsOf (spec.resolve schema) ≠ [] ∧
      ∃ found, List.Forall₂ (fun entry more => spec.flattenWithin steps entry.2 (place.property
          entry.1 ((requiredNames (spec.resolve schema)).contains entry.1)) = some more)
        (fieldsOf (spec.resolve schema)) found ∧ arguments = found.flatten) ∨
    ((fieldsOf (spec.resolve schema) = [] ∨ maxBodyDepth ≤ place.keys.length) ∧
      ∃ inner hint, place.SameSpot inner ∧ arguments = [inner.argument hint]) := by
  have hspot := place.sameSpot_describe (spec.resolve schema)
  have hcomposed : bodyShape (spec.resolve schema) ≠ .composed := fun hshape =>
    branches_ne_nil_of_composed hshape hbranches
  rw [flattenWithin_of_not_composed hcomposed, partArguments] at h
  unfold fieldsOf
  cases hshape : bodyShape (spec.resolve schema) with
  | composed => exact absurd hshape hcomposed
  | fields properties =>
    simp only [hshape, property_describe, keys_describe] at h
    split_ifs at h with hdepth
    · obtain ⟨found, hfound, rfl⟩ := Option.map_eq_some_iff.mp h
      exact .inl ⟨hdepth, fields_ne_nil hshape, found, mapM_eq_some_iff.mp hfound, rfl⟩
    · exact .inr ⟨.inr (Nat.le_of_not_lt hdepth), _, _, hspot, (Option.some.inj h).symm⟩
  | dictionary | leaf =>
    simp only [hshape] at h
    exact .inr ⟨.inl rfl, _, _, hspot, (Option.some.inj h).symm⟩

/-- Without branches flattening goes on with the schemas of the properties only. -/
theorem continuations_uncomposed (hbranches : branches (spec.resolve schema) = []) :
    spec.continuations (schema, depth) = if depth < maxBodyDepth then
      (fieldsOf (spec.resolve schema)).map fun entry => (entry.2, depth + 1) else [] := by
  rw [continuations, continuationsOf, fieldsOf]
  cases hshape : bodyShape (spec.resolve schema) with
  | composed => exact absurd hbranches (branches_ne_nil_of_composed hshape)
  | fields properties => rfl
  | dictionary | leaf => simp

/-! ### The arguments of nested objects -/

/-- The arguments of a property lead through its name. -/
theorem keys_of_mem_property {required : Bool}
    (h : spec.flattenWithin steps schema (place.property name required) = some arguments)
    (ha : a ∈ arguments) : ∃ names, a.keys = place.keys ++ name :: names := by
  rcases spot_of_mem_flattenWithin h ha with hat | hbelow
  · exact ⟨[], keys_of_standsAt hat⟩
  · obtain ⟨next, names, hkeys⟩ := hbelow.keys
    exact ⟨next :: names, hkeys.trans (List.append_assoc _ [name] _)⟩

/-- Arguments that lead through properties of different names lead to different places. -/
theorem nodup_keys_flatten {properties : Members} {found : List (List Argument)}
    {keys : List String} (hproperties : (Members.keys properties).Nodup)
    (h : List.Forall₂ (fun entry more => (more.map Argument.keys).Nodup ∧
      ∀ a ∈ more, ∃ names, a.keys = keys ++ entry.1 :: names) properties found) :
    (found.flatten.map Argument.keys).Nodup := by
  induction h with
  | nil => exact List.nodup_nil
  | @cons entry more properties found hfirst hrest ih =>
    rw [Members.keys, List.map_cons, List.nodup_cons] at hproperties
    rw [List.flatten_cons, List.map_append, List.nodup_append']
    refine ⟨hfirst.1, ih hproperties.2, ?_⟩
    rw [List.disjoint_left]
    intro other hother hother'
    obtain ⟨a, ha, rfl⟩ := List.mem_map.mp hother
    obtain ⟨b, hb, hsame⟩ := List.mem_map.mp hother'
    obtain ⟨names, hkeys⟩ := hfirst.2 a ha
    obtain ⟨group, hgroup, hb⟩ := List.mem_flatten.mp hb
    obtain ⟨entry', hentry', hall⟩ := exists_of_forall₂ hrest hgroup
    obtain ⟨names', hkeys'⟩ := hall.2 b hb
    -- one place would have two names at one depth
    rw [hkeys, hkeys', List.append_cancel_left_eq, List.cons.injEq] at hsame
    exact hproperties.1 (hsame.1 ▸ List.mem_map_of_mem hentry')

section Nested

variable (hroot : spec.root.HasDistinctKeys)
include hroot

/-- Each level takes one step. -/
theorem doneWithin_uncomposed (levels : Nat) (hplain : spec.IsPlainAt schema depth)
    (hlevels : depth + levels = maxBodyDepth) :
    DoneWithin spec.continuations (levels + 1) (schema, depth) := by
  induction levels generalizing schema depth with
  | zero =>
    intro other hother
    rw [continuations_uncomposed hplain.branches_resolve, if_neg (by omega)] at hother
    cases hother
  | succ levels ih =>
    intro other hother
    rw [continuations_uncomposed hplain.branches_resolve, if_pos (by omega)] at hother
    obtain ⟨entry, hentry, rfl⟩ := List.mem_map.mp hother
    exact ih (hplain.below hroot (by omega) hentry) (by omega)

theorem exists_flatten_uncomposed (hplain : spec.IsPlainAt schema place.keys.length) :
    ∃ arguments, spec.flatten schema place = some arguments := by
  have hdone := doneWithin_uncomposed hroot (maxBodyDepth - place.keys.length) hplain
    (Nat.add_sub_cancel' hplain.depth_le)
  rw [← isSome_flattenWithin] at hdone
  obtain ⟨arguments, harguments⟩ := Option.isSome_iff_exists.mp hdone
  exact ⟨arguments, (flatten_eq_some_iff hplain.depth_le).mpr ⟨_, harguments⟩⟩

/-- An argument stands for an end below the place.  It must be given where the place must, or is the
root of a body, and all names on the way are required. -/
theorem isRequired_of_mem_flattenWithin (hplain : spec.IsPlainAt schema place.keys.length)
    (h : spec.flattenWithin steps schema place = some arguments) (ha : a ∈ arguments) :
    ∃ names, a.keys = place.keys ++ names ∧ spec.LeadsToEnd schema place.keys.length names ∧
      (a.isRequired = true ↔ (place.required = true ∨ place.keys = [] ∧ names ≠ []) ∧
        spec.RequiresAll schema names) := by
  induction steps generalizing schema place arguments with
  | zero => cases h
  | succ steps ih =>
    rcases flattenWithin_uncomposed hplain.branches_resolve h with
      ⟨hdepth, -, found, hfound, rfl⟩ | ⟨hend, inner, hint, hspot, rfl⟩
    · obtain ⟨more, hmore, ha⟩ := List.mem_flatten.mp ha
      obtain ⟨entry, hentry, hgiven⟩ := exists_of_mem_mapM (mapM_eq_some_iff.mpr hfound) hmore
      have hlength := length_keys_property place entry.1
        ((requiredNames (spec.resolve schema)).contains entry.1)
      have hbelow := hplain.below hroot hdepth hentry
      rw [← hlength] at hbelow
      obtain ⟨names, hkeys, hleads, hrequired⟩ := ih hbelow hgiven ha
      have hget := hplain.get?_of_mem hroot hentry
      refine ⟨entry.1 :: names, ?_, ?_, ?_⟩
      · rw [hkeys]
        exact List.append_assoc _ [entry.1] names
      · rwa [leadsToEnd_cons hget, ← hlength]
      · rw [hrequired, requiresAll_cons hget]
        -- the place of a property is no root, and its flag is the one handed down
        simp [BodyPlace.property, and_assoc, or_comm]
    · rw [List.mem_singleton] at ha
      subst ha
      refine ⟨[], ?_, ?_, ?_⟩
      · rw [List.append_nil]
        exact hspot.keys
      · rw [leadsToEnd_nil]
        exact ⟨hplain.depth_le, hend.imp_right fun hle => Nat.le_antisymm hplain.depth_le hle⟩
      · rw [BodyPlace.isRequired_argument, hspot.required]
        simp [requiresAll_nil]

/-- Each end below a place has an argument. -/
theorem exists_mem_of_leadsToEnd (hplain : spec.IsPlainAt schema place.keys.length)
    (h : spec.flattenWithin steps schema place = some arguments)
    (hleads : spec.LeadsToEnd schema place.keys.length names) :
    ∃ a ∈ arguments, a.keys = place.keys ++ names := by
  induction steps generalizing schema place arguments names with
  | zero => cases h
  | succ steps ih =>
    rcases flattenWithin_uncomposed hplain.branches_resolve h with
      ⟨hdepth, hne, found, hfound, rfl⟩ | ⟨hend, inner, hint, hspot, rfl⟩
    · cases names with
      | nil =>
        rw [leadsToEnd_nil] at hleads
        exact absurd hleads.2 (by simp [hne, hdepth.ne])
      | cons name rest =>
        -- The first name is that of a field, and the others lead to an end below it.
        obtain ⟨property, hget⟩ : ∃ property,
            Members.get? (fieldsOf (spec.resolve schema)) name = some property := by
          obtain ⟨-, node, hnode, -⟩ := hleads
          obtain ⟨property, hget, -⟩ := Option.bind_eq_some_iff.mp hnode
          exact ⟨property, hget⟩
        have hentry := Members.mem_of_get? hget
        obtain ⟨more, hmore, hgiven⟩ := exists_mem_of_mapM (mapM_eq_some_iff.mpr hfound) hentry
        have hlength := length_keys_property place name
          ((requiredNames (spec.resolve schema)).contains name)
        have hbelow := hplain.below hroot hdepth hentry
        rw [leadsToEnd_cons hget] at hleads
        rw [← hlength] at hbelow hleads
        obtain ⟨a, ha, hkeys⟩ := ih hbelow hgiven hleads
        refine ⟨a, List.mem_flatten_of_mem hmore ha, ?_⟩
        rw [hkeys]
        exact List.append_assoc _ [name] rest
    · refine ⟨_, List.mem_singleton_self _, ?_⟩
      -- Below an end there is none: it has no fields, or it lies as deep as ends can lie.
      have hnames : names = [] := by
        obtain ⟨hlength, node, hnode, -⟩ := hleads
        cases names with
        | nil => rfl
        | cons name rest =>
          rw [List.length_cons] at hlength
          rcases hend with hnone | hdeep
          · simp [schemaAt?, hnone] at hnode
          · omega
      rw [hnames, List.append_nil]
      exact hspot.keys

/-- No two arguments stand for one end. -/
theorem nodup_keys_flattenWithin (hplain : spec.IsPlainAt schema place.keys.length)
    (h : spec.flattenWithin steps schema place = some arguments) :
    (arguments.map Argument.keys).Nodup := by
  induction steps generalizing schema place arguments with
  | zero => cases h
  | succ steps ih =>
    rcases flattenWithin_uncomposed hplain.branches_resolve h with
      ⟨hdepth, -, found, hfound, rfl⟩ | ⟨-, inner, hint, -, rfl⟩
    · apply nodup_keys_flatten (hplain.nodup_keys hroot)
      refine List.forall₂_iff_zip.mpr ⟨hfound.length_eq, fun {entry more} hpair => ?_⟩
      have hgiven := (List.forall₂_iff_zip.mp hfound).2 hpair
      refine ⟨ih ?_ hgiven, fun a ha => keys_of_mem_property hgiven ha⟩
      rw [length_keys_property]
      exact hplain.below hroot hdepth (List.of_mem_zip hpair).1
    · exact List.nodup_singleton _

end Nested

/-- Where no schema that is reached from the schema of a body has branches, the body has one
argument for each end of the objects in it.  An argument for a property has no default exactly where
each object on the way requires the next property; whether the body itself must be given plays no
part. -/
theorem flatten_nested (hroot : spec.root.HasDistinctKeys) (hschema : schema.HasDistinctKeys)
    (huncomposed : spec.IsUncomposed schema 0) (required : Bool) (description : String) :
    ∃ arguments, spec.flatten schema (.root required description) = some arguments ∧
      (arguments.map Argument.keys).Nodup ∧
      (∀ names, (∃ a ∈ arguments, a.keys = names) ↔ spec.LeadsToEnd schema 0 names) ∧
      ∀ a ∈ arguments, a.keys ≠ [] → (a.default? = none ↔ spec.RequiresAll schema a.keys) := by
  have hplain : spec.IsPlainAt schema (BodyPlace.root required description).keys.length :=
    ⟨hschema, huncomposed, Nat.zero_le _⟩
  obtain ⟨arguments, harguments⟩ := exists_flatten_uncomposed hroot hplain
  refine ⟨arguments, harguments, nodup_keys_flattenWithin hroot hplain harguments, ?_, ?_⟩
  · intro names
    constructor
    · rintro ⟨a, ha, rfl⟩
      obtain ⟨names, hkeys, hleads, -⟩ :=
        isRequired_of_mem_flattenWithin hroot hplain harguments ha
      rwa [hkeys]
    · exact exists_mem_of_leadsToEnd hroot hplain harguments
  · intro a ha hne
    obtain ⟨names, hkeys, -, hrequired⟩ :=
      isRequired_of_mem_flattenWithin hroot hplain harguments ha
    have hnames : a.keys = names := hkeys
    rw [← Option.isNone_iff_eq_none, hnames]
    rw [hnames] at hne
    refine hrequired.trans (and_iff_right ?_)
    exact .inr ⟨rfl, hne⟩

/-- A schema with a property that is required and one that is not, each an object that requires one
of its own two properties.  The first is a reference. -/
def deployment : Document := .object
  [("required", .list [.text "metadata"]),
    ("properties", .object
      [("metadata", .object [("$ref", .text "#/components/schemas/Metadata")]),
        ("spec", .object [("required", .list [.text "replicas"]), ("properties", .object
          [("replicas", .object [("type", .text "integer")]), ("paused", .object [])])])])]

def deploymentSpec : Spec := ⟨.object [("components", .object [("schemas", .object [("Metadata",
  .object [("required", .list [.text "name"]), ("properties", .object
    [("name", .object [("type", .text "string")]), ("labels", .object [])])])])])]⟩

theorem flatten_nested_deployment :
    deploymentSpec.root.HasDistinctKeys ∧ deployment.HasDistinctKeys ∧
    deploymentSpec.IsUncomposed deployment 0 ∧
    ∃ arguments, deploymentSpec.flatten deployment (.root false "") = some arguments ∧
      arguments.map (fun a => (a.keys, a.default?))
        = [(["metadata", "name"], none), (["metadata", "labels"], some "None"),
          (["spec", "replicas"], some "None"), (["spec", "paused"], some "None")] ∧
      deploymentSpec.RequiresAll deployment ["metadata", "name"] ∧
      ¬ deploymentSpec.RequiresAll deployment ["spec", "replicas"] := by
  have huncomposed : deploymentSpec.IsUncomposed deployment 0 :=
    isUncomposed_of_parts (by decide) (by decide) 0
  obtain ⟨arguments, harguments, -, -, hrequired⟩ :=
    flatten_nested (by decide) (by decide) huncomposed false ""
  have hentries : (deploymentSpec.flatten deployment (.root false "")).map
      (List.map fun a => (a.keys, a.default?)) = some
        [(["metadata", "name"], none), (["metadata", "labels"], some "None"),
          (["spec", "replicas"], some "None"), (["spec", "paused"], some "None")] := by
    decide +kernel
  rw [harguments, Option.map_some, Option.some.injEq] at hentries
  have hrequires : ∀ names default?, names ≠ [] →
      (names, default?) ∈ arguments.map (fun a => (a.keys, a.default?)) →
      (default? = none ↔ deploymentSpec.RequiresAll deployment names) := by
    intro names default? hnames hmem
    obtain ⟨a, ha, heq⟩ := List.mem_map.mp hmem
    obtain ⟨rfl, rfl⟩ := Prod.mk.inj heq
    exact hrequired a ha hnames
  rw [hentries] at hrequires
  refine ⟨by decide, by decide, huncomposed, arguments, harguments, hentries, ?_, ?_⟩
  · exact (hrequires _ none (by decide) (by decide)).mp rfl
  · exact fun hall => Option.some_ne_none _
      ((hrequires _ (some "None") (by decide) (by decide)).mpr hall)

end Spec

end ApiTools
