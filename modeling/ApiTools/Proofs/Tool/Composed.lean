import ApiTools.Proofs.Tool.Met

/-!
# The arguments of a composed schema

A schema with branches has the arguments of its own properties and then those of each branch whose
signature is new (`Spec.flatten_composed`).  No signature is lost, no branch adds one that is there
already, and the signatures added come in the order in which the branches have them first
(`Spec.flatten_merges_branches`).  This is said of every schema at every place of a body, so it holds
of the branches of branches, and of the properties of properties, in the same way.
-/

namespace ApiTools

namespace Spec

variable {spec : Spec} {schema : Document} {place : BodyPlace} {arguments own : List Argument}
  {found : List (List Argument)}

/-- The arguments of the properties that a schema has beside its branches. -/
def ownArguments (spec : Spec) (schema : Document) (place : BodyPlace) : Option (List Argument) :=
  if (spec.resolve schema).has "properties" then
    spec.flatten (withoutBranches (spec.resolve schema)) (place.describe (spec.resolve schema))
  else some []

/-- The arguments of each branch of a schema. -/
def branchArguments (spec : Spec) (schema : Document) (place : BodyPlace) :
    Option (List (List Argument)) :=
  (branches (spec.resolve schema)).mapM (spec.flatten · (place.describe (spec.resolve schema)))

/-! ### Flattening branch by branch -/

/-- What is done for each of several schemas is done for all of them within one number of steps. -/
theorem exists_steps_mapM {schemas : List Document}
    (h : schemas.mapM (spec.flatten · place) = some found) :
    ∃ steps, ∀ more ≥ steps, schemas.mapM (spec.flattenWithin more · place) = some found := by
  rw [mapM_eq_some_iff] at h
  induction h with
  | nil => exact ⟨0, fun _ _ => rfl⟩
  | @cons schema first schemas found hfirst _ ih =>
    obtain ⟨steps, hsteps⟩ := ih
    refine ⟨max (spec.flattenSteps schema) steps, fun more hmore => ?_⟩
    rw [ge_iff_le, Nat.max_le] at hmore
    rw [mapM_eq_some_iff]
    exact .cons (flattenWithin_of_le hmore.1 hfirst) (mapM_eq_some_iff.mp (hsteps more hmore.2))

/-- A composed schema has the arguments of its own properties, with those of each branch that have a
new signature. -/
theorem flatten_composed (hplace : place.keys.length ≤ maxBodyDepth)
    (hcomposed : bodyShape (spec.resolve schema) = .composed) :
    spec.flatten schema place = (spec.ownArguments schema place).bind fun own =>
      (spec.branchArguments schema place).map (List.foldl addArguments own) := by
  have hkeys : (place.describe (spec.resolve schema)).keys.length ≤ maxBodyDepth := by
    rwa [keys_describe]
  ext arguments
  rw [flatten_eq_some_iff hplace, Option.bind_eq_some_iff]
  simp only [Option.map_eq_some_iff]
  constructor
  · rintro ⟨steps, h⟩
    cases steps with
    | zero => cases h
    | succ steps =>
      obtain ⟨own, found, hown, hfound, rfl⟩ := flattenWithin_of_composed hcomposed h
      refine ⟨own, ?_, found, ?_, rfl⟩
      · unfold ownArguments
        split_ifs at hown ⊢
        · exact (flatten_eq_some_iff hkeys).mpr ⟨steps, hown⟩
        · exact hown
      · refine mapM_eq_some_iff.mpr ((mapM_eq_some_iff.mp hfound).imp fun branch more hmore => ?_)
        exact (flatten_eq_some_iff hkeys).mpr ⟨steps, hmore⟩
  · rintro ⟨own, hown, found, hfound, rfl⟩
    obtain ⟨steps, hsteps⟩ := exists_steps_mapM hfound
    -- the own properties and the branches are done within the greater of two numbers of steps
    refine ⟨max (spec.flattenSteps (withoutBranches (spec.resolve schema))) steps + 1, ?_⟩
    rw [flattenWithin_composed hcomposed, hsteps _ (Nat.le_max_right ..)]
    unfold ownArguments at hown
    split_ifs at hown ⊢
    · rw [flattenWithin_of_le (Nat.le_max_left ..) hown]
      rfl
    · cases hown
      rfl

/-! ### Signatures -/

/-- The arguments added are some of those that were found in the branches, in their order.  With the
arguments that were there before, they have all the signatures of these and of the branches; none
has a signature that was there before, and their signatures come in the order in which the branches
have them first. -/
structure IsMergeOf (own : List Argument) (found : List (List Argument)) (added : List Argument) :
    Prop where
  sublist : added.Sublist found.flatten
  union : ∀ signature, signature ∈ (own ++ added).map Argument.signature ↔
    signature ∈ own.map Argument.signature ∨
      ∃ more ∈ found, signature ∈ more.map Argument.signature
  fresh : ∀ a ∈ added, a.signature ∉ own.map Argument.signature
  order : (added.map Argument.signature).Pairwise fun earlier later =>
    (found.flatten.map Argument.signature).idxOf earlier
      < (found.flatten.map Argument.signature).idxOf later

theorem exists_isMergeOf (own : List Argument) (found : List (List Argument)) :
    ∃ added, found.foldl addArguments own = own ++ added ∧ IsMergeOf own found added := by
  obtain ⟨added, heq, hsublist, hfresh, horder⟩ :=
    exists_addNew Argument.signature own found.flatten
  have hfold : found.foldl addArguments own = own ++ added :=
    (foldl_addArguments found own).trans heq
  refine ⟨added, hfold, hsublist, fun signature => ?_, hfresh, horder⟩
  simp only [List.mem_map]
  constructor
  · rintro ⟨a, ha, rfl⟩
    rcases List.mem_append.mp ha with ha | ha
    · exact .inl ⟨a, ha, rfl⟩
    · obtain ⟨more, hmore, ha⟩ := List.mem_flatten.mp (hsublist.subset ha)
      exact .inr ⟨more, hmore, a, ha, rfl⟩
  · rintro (⟨a, ha, rfl⟩ | ⟨more, hmore, a, ha, rfl⟩)
    · exact ⟨a, List.mem_append_left _ ha, rfl⟩
    · rw [← hfold]
      exact exists_signature_foldl_addArguments own hmore ha

/-- A schema with branches and without an enumeration is done exactly where its own properties and
all of its branches are.  Its arguments are then those of its own properties, followed by those of
the branches: each signature that a branch has and that is not there yet comes once, in the order of
the first occurrences. -/
theorem flatten_merges_branches (hplace : place.keys.length ≤ maxBodyDepth)
    (hbranches : branches (spec.resolve schema) ≠ [])
    (henum : (spec.resolve schema).has "enum" = false) :
    ((spec.flatten schema place).isSome = true ↔
      (spec.ownArguments schema place).isSome = true ∧
        (spec.branchArguments schema place).isSome = true) ∧
    ∀ arguments, spec.flatten schema place = some arguments →
      ∃ own found added, spec.ownArguments schema place = some own ∧
        spec.branchArguments schema place = some found ∧
        arguments = own ++ added ∧ IsMergeOf own found added := by
  have hcomposed : bodyShape (spec.resolve schema) = .composed := by
    unfold bodyShape
    rw [if_pos (by simp [hbranches, henum])]
  rw [flatten_composed hplace hcomposed]
  refine ⟨?_, ?_⟩
  · cases spec.ownArguments schema place <;> cases spec.branchArguments schema place <;> simp
  · intro arguments h
    obtain ⟨own, hown, h⟩ := Option.bind_eq_some_iff.mp h
    obtain ⟨found, hfound, rfl⟩ := Option.map_eq_some_iff.mp h
    obtain ⟨added, hadded, hmerge⟩ := exists_isMergeOf own found
    exact ⟨own, found, added, hown, hfound, hadded, hmerge⟩

/-- An object with one property of the given type. -/
def withProperty (name type : String) (others : Members) : Document :=
  .object (("properties", .object [(name, .object [("type", .text type)])]) :: others)

/-- A schema with a property of its own and two branches, the second one composed again.  The
property that the first branch repeats is not added, and of the two forms of the other one each
comes once. -/
theorem flatten_merges_branches_notes :
    let schema := withProperty "id" "integer"
      [("allOf", .list [withProperty "id" "integer" [], .object [("anyOf", .list
        [withProperty "note" "string" [], withProperty "note" "integer" [],
          withProperty "note" "string" []])]])]
    branches schema ≠ [] ∧ schema.has "enum" = false ∧
      ∃ arguments own found added,
        (Spec.mk .null).flatten schema (.root true "") = some arguments ∧
        arguments.map Argument.signature
          = ["body_id: int = None", "body_note: str = None", "body_note: int = None"] ∧
        (Spec.mk .null).ownArguments schema (.root true "") = some own ∧
        (Spec.mk .null).branchArguments schema (.root true "") = some found ∧
        arguments = own ++ added ∧ IsMergeOf own found added := by
  intro schema
  have hbranches : branches ((Spec.mk .null).resolve schema) ≠ [] := by decide
  have henum : ((Spec.mk .null).resolve schema).has "enum" = false := by decide
  have hsignatures : ((Spec.mk .null).flatten schema (.root true "")).map
      (List.map Argument.signature)
        = some ["body_id: int = None", "body_note: str = None", "body_note: int = None"] := by
    decide +kernel
  obtain ⟨arguments, harguments, heq⟩ := Option.map_eq_some_iff.mp hsignatures
  obtain ⟨own, found, added, hown, hfound, hadded, hmerge⟩ :=
    (flatten_merges_branches (Nat.zero_le _) hbranches henum).2 arguments harguments
  exact ⟨hbranches, henum, arguments, own, found, added, harguments, heq, hown, hfound, hadded,
    hmerge⟩

end Spec

end ApiTools
