import ApiTools.Proofs.Document.FirstWins
import ApiTools.Proofs.Document.Frame
import ApiTools.Proofs.Document.Same
import ApiTools.Proofs.Spec.Agreement

/-!
# Branches merged are branches visited

`Spec.visited` goes through a schema and the branches below it, each before its own branches and
all before the next one.  Merging the branches one into another gives what this visit gives in one
go: the first declaration of each property, and each required name once after the schema's own
(`resolveSchema_flattened`).
-/

namespace ApiTools

open Document

namespace Spec

/-! ### What a schema says itself -/

/-- The properties that a schema declares itself. -/
def ownProperties (schema : Document) : Members := (schema.getMembers? "properties").getD []

/-- The names that a schema requires itself. -/
def ownRequired (schema : Document) : List Document := (schema.getItems? "required").getD []

/-- The branches of a schema that all hold. -/
def ownBranches (schema : Document) : List Document := (schema.getItems? "allOf").getD []

/-- The schema and, so many levels deep, the branches below it: each before its own branches, with
its references followed. -/
def visited (spec : Spec) : (levels : Nat) → Document → List Document
  | 0, schema => [spec.resolve schema]
  | levels + 1, schema =>
    spec.resolve schema :: (ownBranches (spec.resolve schema)).flatMap (visited spec levels)

/-- The list in its container, where there is anything in it. -/
def contained {α : Type} (container : List α → Document) (entries : List α) : Option Document :=
  if entries.isEmpty then none else some (container entries)

theorem visited_eq_cons (spec : Spec) (levels : Nat) (schema : Document) :
    ∃ rest, spec.visited levels schema = spec.resolve schema :: rest := by
  cases levels with
  | zero => exact ⟨_, rfl⟩
  | succ levels => exact ⟨_, rfl⟩

theorem hasDistinctKeys_resolve {spec : Spec} {schema : Document}
    (hroot : spec.root.HasDistinctKeys) (hschema : schema.HasDistinctKeys) :
    (spec.resolve schema).HasDistinctKeys := by
  rcases spec.resolve_mem schema with hsame | hpart
  · rw [hsame]
    exact hschema
  · exact fun part hmem => hroot part (mem_parts_trans _ hmem hpart)

/-! ### One branch after another -/

namespace Merge

variable {merge : Merge} {members : Members} {branch : Document}

/-- The members of a merge are without the three that it keeps apart. -/
def Apart (merge : Merge) : Prop :=
  ∀ key ∈ ["allOf", "properties", "required"], Members.get? merge.members key = none

theorem apart_start (distinct : (Members.keys members).Nodup) : (start members).Apart := by
  have hbranches := Members.nodup_keys_eraseSwap distinct "allOf"
  have hproperties := Members.nodup_keys_eraseSwap hbranches "properties"
  intro key hkey
  rw [start, Members.get?_eraseSwap hproperties, Members.get?_eraseSwap hbranches,
    Members.get?_eraseSwap distinct]
  simp only [List.mem_cons, List.not_mem_nil, or_false] at hkey
  rcases hkey with rfl | rfl | rfl <;> simp

theorem properties_start (distinct : (Members.keys members).Nodup) :
    (start members).properties = ownProperties (.object members) := by
  rw [start, Members.get?_eraseSwap distinct]
  rfl

theorem required_start (distinct : (Members.keys members).Nodup) :
    (start members).required = ownRequired (.object members) := by
  have hbranches := Members.nodup_keys_eraseSwap distinct "allOf"
  have hget : Members.get? (Members.eraseSwap (Members.eraseSwap members "allOf") "properties")
      "required" = Members.get? members "required" := by
    rw [Members.get?_eraseSwap hbranches, Members.get?_eraseSwap distinct]
    rfl
  unfold start
  dsimp only
  rw [hget]
  rfl

/-- What a branch supplies is none of the members kept apart. -/
theorem apart_add (h : merge.Apart) (branch : Document) : (merge.add branch).Apart := by
  intro key hkey
  have hsupplied : ∀ given ∈ supplied, given ≠ key := by
    revert key
    decide
  unfold add
  dsimp only
  generalize supplied = given at hsupplied
  have hmembers := h key hkey
  generalize merge.members = members at hmembers
  induction given generalizing members with
  | nil => exact hmembers
  | cons first rest ih =>
    rw [List.forall_mem_cons] at hsupplied
    rw [List.foldl_cons]
    apply ih hsupplied.2
    cases branch.get? first with
    | none => exact hmembers
    | some value => rw [Members.get?_setIfAbsent, if_neg hsupplied.1, hmembers]

theorem properties_add : (merge.add branch).properties
    = addNew Members.sameKey merge.properties (ownProperties branch) :=
  Members.foldl_setIfAbsent _ _

theorem required_add : (merge.add branch).required
    = addNew same merge.required (ownRequired branch) := rfl

/-- A run over the branches adds the properties and the required names of each in turn. -/
theorem foldl_add (branches : List Document) (h : merge.Apart) :
    (branches.foldl add merge).Apart ∧
      (branches.foldl add merge).properties
        = addNew Members.sameKey merge.properties (branches.flatMap ownProperties) ∧
      (branches.foldl add merge).required
        = addNew same merge.required (branches.flatMap ownRequired) := by
  induction branches generalizing merge with
  | nil => exact ⟨h, rfl, rfl⟩
  | cons branch rest ih =>
    obtain ⟨hmembers, hproperties, hrequired⟩ := ih (apart_add h branch)
    refine ⟨hmembers, ?_, ?_⟩
    · rw [List.foldl_cons, hproperties, List.flatMap_cons, addNew_append, properties_add]
    · rw [List.foldl_cons, hrequired, List.flatMap_cons, addNew_append, required_add]

/-! ### The merged schema -/

theorem get?_finish (h : merge.Apart) :
    merge.finish.get? "allOf" = none ∧
      merge.finish.get? "properties" = contained .object merge.properties ∧
      merge.finish.get? "required" = contained .list merge.required := by
  have hbranches := h "allOf" (by decide)
  have hproperties := h "properties" (by decide)
  have hrequired := h "required" (by decide)
  unfold finish contained
  by_cases hnone : merge.properties.isEmpty = true <;>
    by_cases hnone' : merge.required.isEmpty = true <;>
    simp [hnone, hnone', Document.get?, members?, Members.get?_set, Members.get?_setIfAbsent,
      hbranches, hproperties, hrequired]

theorem ownProperties_finish (h : merge.Apart) : ownProperties merge.finish = merge.properties := by
  rw [ownProperties, getMembers?, (get?_finish h).2.1, contained]
  cases hnone : merge.properties with
  | nil => rfl
  | cons entry rest => rfl

theorem ownRequired_finish (h : merge.Apart) : ownRequired merge.finish = merge.required := by
  rw [ownRequired, getItems?, (get?_finish h).2.2, contained]
  cases hnone : merge.required with
  | nil => rfl
  | cons name rest => rfl

end Merge

/-! ### The merge and the visit -/

section Visit

variable {spec : Spec} {schema : Document} {branches : List Document}

/-- The merge that a schema with branches is resolved to. -/
theorem exists_merge (hroot : spec.root.HasDistinctKeys) (hschema : schema.HasDistinctKeys)
    (hbranches : (spec.resolve schema).getItems? "allOf" = some branches) (levels : Nat) :
    ∃ merge : Merge, merge.Apart ∧ spec.resolveSchemaWithin (levels + 1) schema = merge.finish ∧
      merge.properties = addNew Members.sameKey (ownProperties (spec.resolve schema))
        ((branches.map (spec.resolveSchemaWithin levels)).flatMap ownProperties) ∧
      merge.required = addNew same (ownRequired (spec.resolve schema))
        ((branches.map (spec.resolveSchemaWithin levels)).flatMap ownRequired) := by
  have hdistinct := hasDistinctKeys_resolve hroot hschema
  cases hresolved : spec.resolve schema with
  | object members =>
    rw [hresolved] at hbranches hdistinct
    have hkeys := (hasDistinctKeys_object.mp hdistinct).1
    obtain ⟨hmembers, hproperties, hrequired⟩ := Merge.foldl_add
      (branches.map (spec.resolveSchemaWithin levels)) (Merge.apart_start hkeys)
    refine ⟨_, hmembers, ?_, ?_, ?_⟩
    · rw [resolveSchemaWithin, hresolved, hbranches]
    · rw [hproperties, Merge.properties_start hkeys]
    · rw [hrequired, Merge.required_start hkeys]
  | null | bool | number | text | list => rw [hresolved] at hbranches; cases hbranches

/-- A schema without branches is its own merge. -/
theorem resolveSchemaWithin_of_no_branches
    (hbranches : (spec.resolve schema).getItems? "allOf" = none) (levels : Nat) :
    spec.resolveSchemaWithin levels schema = spec.resolve schema := by
  cases levels with
  | zero => rfl
  | succ levels =>
    rw [resolveSchemaWithin]
    split
    · rename_i hsome
      rw [hbranches] at hsome
      cases hsome
    · rfl

/-- What a merge has of some kind is what the schema has itself, and then what is new in the merges
of its branches. -/
def Accumulates (spec : Spec) {α : Type} (same : α → α → Bool) (own : Document → List α) : Prop :=
  ∀ levels {schema branches}, schema.HasDistinctKeys →
    (spec.resolve schema).getItems? "allOf" = some branches →
    own (spec.resolveSchemaWithin (levels + 1) schema) = addNew same (own (spec.resolve schema))
      ((branches.map (spec.resolveSchemaWithin levels)).flatMap own)

theorem accumulates_properties (hroot : spec.root.HasDistinctKeys) :
    spec.Accumulates Members.sameKey ownProperties := by
  intro levels schema branches hschema hbranches
  obtain ⟨merge, hapart, hmerged, hproperties, -⟩ := exists_merge hroot hschema hbranches levels
  rw [hmerged, Merge.ownProperties_finish hapart, hproperties]

theorem accumulates_required (hroot : spec.root.HasDistinctKeys) :
    spec.Accumulates same ownRequired := by
  intro levels schema branches hschema hbranches
  obtain ⟨merge, hapart, hmerged, -, hrequired⟩ := exists_merge hroot hschema hbranches levels
  rw [hmerged, Merge.ownRequired_finish hapart, hrequired]

variable {α : Type} {own : Document → List α} {same : α → α → Bool}

/-- Adding the merges of some schemas is adding all the schemas visited from them. -/
theorem Accumulates.addNew_merges (hown : spec.Accumulates same own)
    (htrans : ∀ x y z, same x y = true → same y z = true → same x z = true)
    (hroot : spec.root.HasDistinctKeys) (levels : Nat) (known : List α) {schemas : List Document}
    (hschemas : ∀ schema ∈ schemas, schema.HasDistinctKeys) :
    addNew same known ((schemas.map (spec.resolveSchemaWithin levels)).flatMap own)
      = addNew same known ((schemas.flatMap (spec.visited levels)).flatMap own) := by
  induction levels generalizing schemas known with
  | zero => simp [List.flatMap_map, List.flatMap_assoc, resolveSchemaWithin, visited]
  | succ levels ih =>
    rw [List.flatMap_map, List.flatMap_assoc, addNew_flatMap, addNew_flatMap]
    -- one schema after another, whatever was added before
    refine List.foldl_ext _ _ _ fun known schema hschema => ?_
    rw [visited, ownBranches]
    cases hbranches : (spec.resolve schema).getItems? "allOf" with
    | none => simp [resolveSchemaWithin_of_no_branches hbranches]
    | some branches =>
      have hdistinct := hschemas schema hschema
      have hresolved := hasDistinctKeys_resolve hroot hdistinct
      rw [hown levels hdistinct hbranches, addNew_addNew htrans, addNew_append, List.flatMap_cons,
        addNew_append, Option.getD_some]
      refine ih _ fun branch hbranch part hpart => ?_
      exact hresolved part (mem_parts_trans _ hpart (mem_parts_of_getItems? hbranches hbranch))

/-- What a resolved schema has of some kind: the schema's own, and then what is new in the schemas
visited after it. -/
theorem Accumulates.resolveSchema (hown : spec.Accumulates same own)
    (htrans : ∀ x y z, same x y = true → same y z = true → same x z = true)
    (hroot : spec.root.HasDistinctKeys) (hschema : schema.HasDistinctKeys) :
    own (spec.resolveSchema schema) = addNew same (own (spec.resolve schema))
      ((spec.visited maxAllOfDepth schema).tail.flatMap own) := by
  unfold Spec.resolveSchema maxAllOfDepth
  rw [visited, List.tail_cons, ownBranches]
  cases hbranches : (spec.resolve schema).getItems? "allOf" with
  | none => simp [resolveSchemaWithin_of_no_branches hbranches, addNew]
  | some branches =>
    have hresolved := hasDistinctKeys_resolve hroot hschema
    rw [hown _ hschema hbranches, Option.getD_some]
    refine hown.addNew_merges htrans hroot _ _ fun branch hbranch part hpart => ?_
    exact hresolved part (mem_parts_trans _ hpart (mem_parts_of_getItems? hbranches hbranch))

end Visit

variable {spec : Spec} {schema : Document}

/-- The properties of a resolved schema are the first declarations met in the visit. -/
theorem ownProperties_resolveSchema (hroot : spec.root.HasDistinctKeys)
    (hschema : schema.HasDistinctKeys) : ownProperties (spec.resolveSchema schema)
      = ((spec.visited maxAllOfDepth schema).flatMap ownProperties).eraseDupsBy
          fun later earlier => earlier.1 == later.1 := by
  obtain ⟨rest, hvisited⟩ := spec.visited_eq_cons maxAllOfDepth schema
  have hresolved := hasDistinctKeys_resolve hroot hschema
  have hkeys : (Members.keys (ownProperties (spec.resolve schema))).Nodup := by
    unfold ownProperties
    cases hmembers : (spec.resolve schema).getMembers? "properties" with
    | none => exact List.nodup_nil
    | some members =>
      obtain ⟨value, hvalue, hobject⟩ := Option.bind_eq_some_iff.mp hmembers
      cases value <;> cases hobject
      exact hresolved _ (mem_parts_of_get? hvalue)
  -- the schema's own declarations are all first ones
  have hown : addNew Members.sameKey [] (ownProperties (spec.resolve schema))
      = ownProperties (spec.resolve schema) := by
    refine addNew_of_pairwise ((List.pairwise_map.mp hkeys).imp fun {a b} hab => ?_)
    simpa [Members.sameKey] using hab
  rw [(accumulates_properties hroot).resolveSchema Members.sameKey_trans hroot hschema, hvisited,
    List.tail_cons, ← hown, ← addNew_append, ← List.flatMap_cons]
  exact addNew_nil_left Members.sameKey _

/-- The required names of a resolved schema are its own and then, each of them once, those of the
schemas visited after it. -/
theorem ownRequired_resolveSchema (hroot : spec.root.HasDistinctKeys)
    (hschema : schema.HasDistinctKeys) : ownRequired (spec.resolveSchema schema)
      = ownRequired (spec.resolve schema) ++
        (((spec.visited maxAllOfDepth schema).tail.flatMap ownRequired).filter fun name =>
          !(ownRequired (spec.resolve schema)).any (·.same name)).eraseDupsBy
            fun later earlier => earlier.same later := by
  have htrans (x y z : Document) (hxy : x.same y = true) (hyz : y.same z = true) :
      x.same z = true := same_trans x hxy hyz
  rw [(accumulates_required hroot).resolveSchema htrans hroot hschema, addNew_eq]

/-- A schema without branches is resolved to what its references lead to.  One with branches is
resolved to the merge of the schemas visited from it: without branches, with the first declaration
of each property in the order in which they are met, and with the schema's own required names
followed by each name that is first required by a schema visited later. -/
theorem resolveSchema_flattened (spec : Spec) (schema : Document)
    (hroot : spec.root.HasDistinctKeys) (hschema : schema.HasDistinctKeys) :
    ((spec.resolve schema).getItems? "allOf" = none →
      spec.resolveSchema schema = spec.resolve schema) ∧
    ((spec.resolve schema).getItems? "allOf" ≠ none →
      (spec.resolveSchema schema).get? "allOf" = none ∧
      (spec.resolveSchema schema).get? "properties" = contained .object
        (((spec.visited maxAllOfDepth schema).flatMap ownProperties).eraseDupsBy
          fun later earlier => earlier.1 == later.1) ∧
      (spec.resolveSchema schema).get? "required" = contained .list
        (ownRequired (spec.resolve schema) ++
          (((spec.visited maxAllOfDepth schema).tail.flatMap ownRequired).filter fun name =>
            !(ownRequired (spec.resolve schema)).any (·.same name)).eraseDupsBy
              fun later earlier => earlier.same later)) := by
  refine ⟨fun hbranches => resolveSchemaWithin_of_no_branches hbranches _, fun hbranches => ?_⟩
  obtain ⟨branches, hbranches⟩ := Option.ne_none_iff_exists'.mp hbranches
  obtain ⟨merge, hapart, hmerged, -⟩ := exists_merge hroot hschema hbranches (maxAllOfDepth - 1)
  have hfinish : spec.resolveSchema schema = merge.finish := hmerged
  obtain ⟨hallOf, hproperties, hrequired⟩ := Merge.get?_finish hapart
  rw [← ownProperties_resolveSchema hroot hschema, ← ownRequired_resolveSchema hroot hschema,
    hfinish, Merge.ownProperties_finish hapart, Merge.ownRequired_finish hapart]
  exact ⟨hallOf, hproperties, hrequired⟩

/-- A description with a schema that has a branch. -/
def namedSpec : Spec := ⟨.object [("components", .object [("schemas", .object [("Named", .object
  [("allOf", .list [.object
    [("properties", .object [("name", .object [("type", .text "string")])]),
      ("required", .list [.text "name"])]])])])])]⟩

/-- A schema whose first branch is a reference to one with a branch of its own. -/
def namedPet : Document := .object
  [("required", .list [.text "id"]),
    ("allOf", .list [.object [("$ref", .text "#/components/schemas/Named")],
      .object [("properties", .object [("tag", .object []), ("name", .object [])]),
        ("required", .list [.text "tag", .text "name"])]])]

theorem resolveSchema_flattened_named :
    namedSpec.root.HasDistinctKeys ∧ namedPet.HasDistinctKeys ∧
    (namedSpec.resolve namedPet).getItems? "allOf" ≠ none ∧
    (namedSpec.resolveSchema namedPet).get? "properties" = some (.object
      [("name", .object [("type", .text "string")]), ("tag", .object [])]) ∧
    (namedSpec.resolveSchema namedPet).get? "required" = some (.list
      [.text "id", .text "name", .text "tag"]) := by
  have hbranches : (namedSpec.resolve namedPet).getItems? "allOf" ≠ none := Option.some_ne_none _
  obtain ⟨-, hproperties, hrequired⟩ :=
    (resolveSchema_flattened namedSpec namedPet (by decide) (by decide)).2 hbranches
  exact ⟨by decide, by decide, hbranches, hproperties.trans rfl, hrequired.trans rfl⟩

end Spec

end ApiTools
