import ApiTools.Proofs.Spec.Merged

/-!
# Members of a resolved schema

What a resolved schema has under a key is a part of the schema or of the description, unless it is
put together for the merge (`mem_parts_of_get?_resolveSchema`).  A member that no branch supplies and
that the merge does not keep apart goes through it untouched: setting it before the schema is resolved
is setting it afterwards (`get?_resolveSchema_set`).
-/

namespace ApiTools

open Document

namespace Spec

variable {spec : Spec} {schema value : Document} {members : Members} {key : String}

namespace Merge

variable {merge other : Merge} {branch : Document} {entry : String × Document}

/-- The keys of the members that a merge puts together itself. -/
def mergedKeys : List String := ["type", "properties", "required"]

/-- The keys of the members that a merge takes out before its first branch. -/
def apartKeys : List String := ["allOf", "properties", "required"]

/-! ### Where members come from -/

theorem mem_start (h : entry ∈ (start members).members) : entry ∈ members := by
  have hproperties := Members.eraseSwap_subset _ "required" h
  have hbranches := Members.eraseSwap_subset _ "properties" hproperties
  exact Members.eraseSwap_subset _ "allOf" hbranches

/-- What a branch supplies is one of its members. -/
theorem mem_add (h : entry ∈ (merge.add branch).members) :
    entry ∈ merge.members ∨ branch.get? entry.1 = some entry.2 := by
  unfold add at h
  dsimp only at h
  generalize merge.members = members at h ⊢
  generalize supplied = given at h
  induction given generalizing members with
  | nil => exact .inl h
  | cons first rest ih =>
    rw [List.foldl_cons] at h
    rcases ih _ h with hmem | hbranch
    · cases hget : branch.get? first with
      | none =>
        rw [hget] at hmem
        exact .inl hmem
      | some value =>
        rw [hget] at hmem
        rcases Members.mem_setIfAbsent hmem with hmem | rfl
        · exact .inl hmem
        · exact .inr hget
    · exact .inr hbranch

theorem mem_foldl_add {branches : List Document} (h : entry ∈ (branches.foldl add merge).members) :
    entry ∈ merge.members ∨ ∃ branch ∈ branches, branch.get? entry.1 = some entry.2 := by
  induction branches generalizing merge with
  | nil => exact .inl h
  | cons first rest ih =>
    rw [List.foldl_cons] at h
    rcases ih h with hmem | ⟨branch, hbranch, hget⟩
    · exact (mem_add hmem).imp_right fun hget => ⟨first, List.mem_cons_self .., hget⟩
    · exact .inr ⟨branch, List.mem_cons_of_mem _ hbranch, hget⟩

theorem get?_finish_of_not_mem (merge : Merge) (h : key ∉ mergedKeys) :
    merge.finish.get? key = Members.get? merge.members key := by
  simp only [mergedKeys, List.mem_cons, List.not_mem_nil, or_false, not_or] at h
  obtain ⟨htype, hproperties, hrequired⟩ := h
  unfold finish
  by_cases hnone : merge.properties.isEmpty = true <;>
    by_cases hnone' : merge.required.isEmpty = true <;>
    simp [hnone, hnone', Document.get?, members?, Members.get?_set, Members.get?_setIfAbsent,
      Ne.symm htype, Ne.symm hproperties, Ne.symm hrequired]

end Merge

theorem mem_parts_of_get?_resolveSchemaWithin (hkey : key ∉ Merge.mergedKeys) (levels : Nat)
    (h : (spec.resolveSchemaWithin levels schema).get? key = some value) :
    value ∈ schema.parts ∨ value ∈ spec.root.parts := by
  -- a part of the schema that references lead to is one of the schema or of the description
  have hresolve : ∀ {schema part : Document}, part ∈ (spec.resolve schema).parts →
      part ∈ schema.parts ∨ part ∈ spec.root.parts := by
    intro schema part hpart
    rcases spec.resolve_mem schema with hsame | hroot
    · exact .inl (hsame ▸ hpart)
    · exact .inr (mem_parts_trans _ hpart hroot)
  induction levels generalizing schema with
  | zero => exact hresolve (mem_parts_of_get? h)
  | succ levels ih =>
    rw [resolveSchemaWithin] at h
    split at h
    · next members branches hobject hbranches =>
      rw [Merge.get?_finish_of_not_mem _ hkey] at h
      rcases Merge.mem_foldl_add (Members.mem_of_get? h) with hmem | ⟨merged, hmerged, hget⟩
      · have hpart : value ∈ (Document.object members).parts :=
          mem_parts_object.mpr (.inr ⟨_, Merge.mem_start hmem, self_mem_parts _⟩)
        exact hresolve (hobject ▸ hpart)
      · obtain ⟨branch, hbranch, rfl⟩ := List.mem_map.mp hmerged
        rcases ih hget with hpart | hroot
        · exact hresolve (mem_parts_trans _ hpart (mem_parts_of_getItems? hbranches hbranch))
        · exact .inr hroot
    · exact hresolve (mem_parts_of_get? h)

/-- What a resolved schema has under a key is a part of the schema or of the description, unless the
merge puts it together itself. -/
theorem mem_parts_of_get?_resolveSchema (hkey : key ∉ Merge.mergedKeys)
    (h : (spec.resolveSchema schema).get? key = some value) :
    value ∈ schema.parts ∨ value ∈ spec.root.parts :=
  mem_parts_of_get?_resolveSchemaWithin hkey maxAllOfDepth h

/-! ### A member that the merge does not touch -/

/-- The other members are these with the value of the key set, as far as reading tells. -/
def Members.IsSetTo (key : String) (value : Document) (members other : Members) : Prop :=
  ∀ k, Members.get? other k = if key = k then some value else Members.get? members k

namespace Merge

variable {merge other : Merge}

/-- The other merge is this one with a member set. -/
structure IsSetTo (key : String) (value : Document) (merge other : Merge) : Prop where
  members : Members.IsSetTo key value merge.members other.members
  properties : other.properties = merge.properties
  required : other.required = merge.required

theorem isSetTo_start (hmembers : (Members.keys members).Nodup) (hkey : key ∉ apartKeys)
    (value : Document) :
    IsSetTo key value (start members) (start (Members.set members key value)) := by
  have hset := Members.nodup_keys_set hmembers key value
  simp only [apartKeys, List.mem_cons, List.not_mem_nil, or_false, not_or] at hkey
  obtain ⟨hallOf, hproperties, hrequired⟩ := hkey
  refine ⟨fun k => ?_, ?_, ?_⟩
  · have herased := Members.nodup_keys_eraseSwap hmembers "allOf"
    have herased' := Members.nodup_keys_eraseSwap hset "allOf"
    rw [start, start, Members.get?_eraseSwap (Members.nodup_keys_eraseSwap herased' _),
      Members.get?_eraseSwap (Members.nodup_keys_eraseSwap herased _),
      Members.get?_eraseSwap herased', Members.get?_eraseSwap herased,
      Members.get?_eraseSwap hset, Members.get?_eraseSwap hmembers, Members.get?_set]
    by_cases hk : key = k
    · subst hk
      simp [hallOf, hproperties, hrequired]
    · simp [hk]
  · rw [properties_start hset, properties_start hmembers]
    unfold ownProperties getMembers? Document.get? members?
    rw [Option.bind_some, Option.bind_some, Members.get?_set_of_ne _ _ hproperties]
  · rw [required_start hset, required_start hmembers]
    unfold ownRequired getItems? Document.get? members?
    rw [Option.bind_some, Option.bind_some, Members.get?_set_of_ne _ _ hrequired]

theorem IsSetTo.add (h : IsSetTo key value merge other) (hkey : key ∉ supplied)
    (branch : Document) : IsSetTo key value (merge.add branch) (other.add branch) := by
  obtain ⟨hmembers, hproperties, hrequired⟩ := h
  refine ⟨?_, ?_, ?_⟩
  · unfold Merge.add
    dsimp only
    generalize merge.members = members at hmembers ⊢
    generalize other.members = others at hmembers ⊢
    generalize supplied = given at hkey
    induction given generalizing members others with
    | nil => exact hmembers
    | cons first rest ih =>
      rw [List.mem_cons, not_or] at hkey
      rw [List.foldl_cons, List.foldl_cons]
      refine ih _ _ ?_ hkey.2
      cases branch.get? first with
      | none => exact hmembers
      | some given =>
        intro k
        dsimp only
        rw [Members.get?_setIfAbsent, Members.get?_setIfAbsent, hmembers, hmembers,
          if_neg hkey.1]
        by_cases hk : key = k
        · subst hk
          simp [Ne.symm hkey.1]
        · simp [hk]
  · rw [properties_add, properties_add, hproperties]
  · rw [required_add, required_add, hrequired]

theorem IsSetTo.foldl_add (h : IsSetTo key value merge other) (hkey : key ∉ supplied)
    (branches : List Document) :
    IsSetTo key value (branches.foldl Merge.add merge) (branches.foldl Merge.add other) := by
  induction branches generalizing merge other with
  | nil => exact h
  | cons branch rest ih => exact ih (h.add hkey branch)

theorem IsSetTo.get?_finish (h : IsSetTo key value merge other) (hkey : key ∉ mergedKeys)
    (k : String) :
    other.finish.get? k = if key = k then some value else merge.finish.get? k := by
  simp only [mergedKeys, List.mem_cons, List.not_mem_nil, or_false, not_or] at hkey
  obtain ⟨htype, hproperties, hrequired⟩ := hkey
  obtain ⟨hmembers, heqProperties, heqRequired⟩ := h
  have htypes := hmembers "type"
  have hk := hmembers k
  rw [if_neg htype] at htypes
  unfold finish
  rw [heqProperties, heqRequired]
  by_cases hnone : merge.properties.isEmpty = true <;>
    by_cases hnone' : merge.required.isEmpty = true <;>
    simp only [hnone, hnone', if_true, Bool.false_eq_true, if_false, Document.get?, members?,
      Option.bind_some, Members.get?_set, Members.get?_setIfAbsent, htypes, hk] <;>
    grind

end Merge

/-- Setting a member of a schema that is no reference is setting it in the resolved schema, where no
branch supplies such a member and the merge does not keep it apart. -/
theorem get?_resolveSchema_set (hmembers : (Members.keys members).Nodup)
    (hkey : key ∉ "$ref" :: Merge.apartKeys ++ Merge.mergedKeys ++ Merge.supplied)
    (hnext : spec.next? (.object members) = none) (value : Document) (k : String) :
    (spec.resolveSchema (.object (Members.set members key value))).get? k
      = if key = k then some value else (spec.resolveSchema (.object members)).get? k := by
  simp only [List.cons_append, List.mem_cons, List.mem_append, not_or] at hkey
  obtain ⟨href, ⟨hapart, hmerged⟩, hsupplied⟩ := hkey
  have hget (k : String) : (Document.object (Members.set members key value)).get? k
      = if key = k then some value else (Document.object members).get? k := Members.get?_set ..
  have hresolve : spec.resolve (.object members) = .object members :=
    resolve_of_isEnd (isEnd_iff.mpr hnext)
  have hresolve' : spec.resolve (.object (Members.set members key value))
      = .object (Members.set members key value) := by
    have hnext' : spec.next? (.object (Members.set members key value)) = none := by
      rw [← hnext, next?, next?, getText?, getText?, hget, if_neg href]
    exact resolve_of_isEnd (isEnd_iff.mpr hnext')
  have hallOf : (Document.object (Members.set members key value)).getItems? "allOf"
      = (Document.object members).getItems? "allOf" := by
    have hne : key ≠ "allOf" := fun heq => hapart (heq ▸ by decide)
    rw [getItems?, getItems?, hget, if_neg hne]
  unfold resolveSchema maxAllOfDepth
  cases hbranches : (Document.object members).getItems? "allOf" with
  | none =>
    rw [resolveSchemaWithin_of_no_branches (by rw [hresolve', hallOf, hbranches]),
      resolveSchemaWithin_of_no_branches (by rw [hresolve, hbranches]), hresolve, hresolve', hget]
  | some branches =>
    rw [resolveSchemaWithin, resolveSchemaWithin, hresolve, hresolve', hallOf, hbranches]
    exact ((Merge.isSetTo_start hmembers hapart value).foldl_add hsupplied _).get?_finish hmerged k

end Spec

end ApiTools
