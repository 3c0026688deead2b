import ApiTools.Proofs.Document.Parts
import Mathlib.Data.List.ProdSigma
import Mathlib.Data.Nat.Find

/-!
# The steps of flattening a body

`Spec.flattenSteps` is enough: where flattening is done within any number of steps, it is done
within that many, with the same arguments (`Spec.flatten_eq_some_iff`).  What flattening goes on
with is a list of schemas with their depths (`Spec.continuations`), and whether it is done depends on
these only.  All of them belong to one finite list that is closed under going on
(`Spec.bodyStates`), and in such a list no more steps are needed than it has entries
(`doneWithin_length`): a state that is done is not met again on the way from it.
-/

namespace ApiTools

/-! ### Going on within a finite list -/

section Done

variable {α : Type} {next : α → List α} {state : α}

/-- Going on from the state comes to an end within the given number of steps. -/
def DoneWithin (next : α → List α) : (steps : Nat) → α → Prop
  | 0, _ => False
  | steps + 1, state => ∀ other ∈ next state, DoneWithin next steps other

theorem DoneWithin.succ {steps : Nat} (h : DoneWithin next steps state) :
    DoneWithin next (steps + 1) state := by
  induction steps generalizing state with
  | zero => exact h.elim
  | succ steps ih => exact fun other hother => ih (h other hother)

theorem DoneWithin.mono {steps more : Nat} (hle : steps ≤ more) (h : DoneWithin next steps state) :
    DoneWithin next more state := by
  induction hle with
  | refl => exact h
  | step _ ih => exact ih.succ

/-- The greatest of the numbers of steps serves for all states of a list. -/
theorem exists_doneWithin_forall {states : List α}
    (h : ∀ state ∈ states, ∃ steps, DoneWithin next steps state) :
    ∃ steps, ∀ state ∈ states, DoneWithin next steps state := by
  induction states with
  | nil => exact ⟨0, by simp⟩
  | cons first rest ih =>
    rw [List.forall_mem_cons] at h
    obtain ⟨steps, hfirst⟩ := h.1
    obtain ⟨more, hrest⟩ := ih h.2
    refine ⟨max steps more, List.forall_mem_cons.mpr ⟨hfirst.mono (le_max_left ..), ?_⟩⟩
    exact fun other hother => (hrest other hother).mono (le_max_right ..)

/-- Going on comes to an end where it does from each of the next states. -/
theorem exists_doneWithin_iff : (∃ steps, DoneWithin next steps state) ↔
    ∀ other ∈ next state, ∃ steps, DoneWithin next steps other := by
  constructor
  · rintro ⟨steps, h⟩ other hother
    cases steps with
    | zero => exact h.elim
    | succ steps => exact ⟨steps, h other hother⟩
  · intro h
    obtain ⟨steps, hsteps⟩ := exists_doneWithin_forall h
    exact ⟨steps + 1, hsteps⟩

/-- In a list that is closed under going on, no more steps are needed than it has entries. -/
theorem doneWithin_length (states : List α)
    (hclosed : ∀ state ∈ states, ∀ other ∈ next state, other ∈ states) (hmem : state ∈ states)
    (hdone : ∃ steps, DoneWithin next steps state) : DoneWithin next states.length state := by
  classical
  induction hlength : states.length using Nat.strongRecOn generalizing states state with
  | ind length ih =>
    -- With `steps + 1` the least number, the state is not among those that are done in `steps`.
    obtain ⟨hfound, hleast⟩ := Nat.find_spec hdone, fun n => Nat.find_min hdone (m := n)
    cases hfind : Nat.find hdone with
    | zero =>
      rw [hfind] at hfound
      exact hfound.elim
    | succ steps =>
      rw [hfind] at hfound
      have hnot : ¬ DoneWithin next steps state := hleast steps (by omega)
      -- The states that are done in `steps` are closed as well, and there are fewer of them.
      have hclosed' : ∀ other ∈ states.filter (DoneWithin next steps ·),
          ∀ further ∈ next other, further ∈ states.filter (DoneWithin next steps ·) := by
        intro other hother further hfurther
        rw [List.mem_filter, decide_eq_true_eq] at hother ⊢
        refine ⟨hclosed other hother.1 further hfurther, ?_⟩
        cases steps with
        | zero => exact hother.2.elim
        | succ steps => exact (hother.2 further hfurther).succ
      have hshorter : (states.filter (DoneWithin next steps ·)).length < length := by
        rw [← hlength]
        exact List.length_filter_lt_length_iff_exists.mpr ⟨state, hmem, by simpa using hnot⟩
      obtain ⟨length, rfl⟩ : ∃ n, length = n + 1 := ⟨length - 1, by omega⟩
      intro other hother
      have hmem' : other ∈ states.filter (DoneWithin next steps ·) := by
        rw [List.mem_filter, decide_eq_true_eq]
        exact ⟨hclosed state hmem other hother, hfound other hother⟩
      exact (ih _ hshorter _ hclosed' hmem' ⟨steps, hfound other hother⟩ rfl).mono (by omega)

end Done

namespace Spec

open Document

/-! ### What flattening goes on with -/

/-- How a resolved schema is flattened. -/
inductive BodyShape where
  /-- By its own properties and its branches. -/
  | composed
  /-- By its properties, of which there is at least one. -/
  | fields (properties : Members)
  /-- As an object of any members. -/
  | dictionary
  /-- As a value. -/
  | leaf

/-- How the resolved schema is flattened. -/
def bodyShape (schema : Document) : BodyShape :=
  if !(branches schema).isEmpty && !schema.has "enum" then .composed
  else if (schemaType? schema == some "object" || (schema.getMembers? "properties").isSome)
      && !schema.has "enum" then
    match schema.getMembers? "properties" with
    | some (first :: rest) => .fields (first :: rest)
    | _ => .dictionary
  else .leaf

/-- One step of flattening, by the shape of the resolved schema. -/
theorem flattenWithin_succ (spec : Spec) (steps : Nat) (schema : Document) (place : BodyPlace) :
    spec.flattenWithin (steps + 1) schema place
      = let schema := spec.resolve schema
        let place := place.describe schema
        match bodyShape schema with
        | .composed =>
          (if schema.has "properties" then spec.flattenWithin steps (withoutBranches schema) place
            else some []).bind fun own =>
              ((branches schema).mapM (spec.flattenWithin steps · place)).map
                (List.foldl addArguments own)
        | .fields properties =>
          if place.keys.length < maxBodyDepth then
            (properties.mapM fun entry => spec.flattenWithin steps entry.2
              (place.property entry.1 ((requiredNames schema).contains entry.1))).map List.flatten
          else some [place.argument .dict]
        | .dictionary => some [place.argument .dict]
        | .leaf => some [place.argument (spec.leafHint schema)] := by
  rw [flattenWithin]
  simp only [bind_pure_comp, Option.map_eq_map, Option.bind_eq_bind]
  generalize spec.resolve schema = resolved
  generalize place.describe resolved = place
  by_cases hcomposed : (!(branches resolved).isEmpty && !resolved.has "enum") = true
  · have hshape : bodyShape resolved = .composed := if_pos hcomposed
    rw [if_pos hcomposed, hshape]
    dsimp only
    split_ifs <;> rfl
  · rw [if_neg hcomposed]
    by_cases hobject : ((schemaType? resolved == some "object"
        || (resolved.getMembers? "properties").isSome) && !resolved.has "enum") = true
    · rw [if_pos hobject]
      have hshape : bodyShape resolved = match resolved.getMembers? "properties" with
          | some (first :: rest) => .fields (first :: rest)
          | _ => .dictionary := (if_neg hcomposed).trans (if_pos hobject)
      rw [hshape]
      cases resolved.getMembers? "properties" with
      | none => rfl
      | some properties => cases properties <;> rfl
    · have hshape : bodyShape resolved = .leaf := (if_neg hcomposed).trans (if_neg hobject)
      rw [if_neg hobject, hshape]

/-- The schemas that flattening of a resolved schema goes on with, each with its depth. -/
def continuationsOf (schema : Document) (depth : Nat) : List (Document × Nat) :=
  match bodyShape schema with
  | .composed =>
    (if schema.has "properties" then [(withoutBranches schema, depth)] else [])
      ++ (branches schema).map (·, depth)
  | .fields properties =>
    if depth < maxBodyDepth then properties.map fun entry => (entry.2, depth + 1) else []
  | _ => []

/-- The schemas that flattening goes on with. -/
def continuations (spec : Spec) (state : Document × Nat) : List (Document × Nat) :=
  continuationsOf (spec.resolve state.1) state.2

theorem isSome_mapM {α β : Type} (f : α → Option β) (items : List α) :
    (items.mapM f).isSome = true ↔ ∀ item ∈ items, (f item).isSome = true := by
  induction items with
  | nil => simp
  | cons first rest ih =>
    rw [List.mapM_cons, List.forall_mem_cons, ← ih]
    cases f first <;> cases rest.mapM f <;> simp

@[simp] theorem keys_describe (place : BodyPlace) (schema : Document) :
    (place.describe schema).keys = place.keys := by
  unfold BodyPlace.describe
  split <;> rfl

theorem length_keys_property (place : BodyPlace) (name : String) (required : Bool) :
    (place.property name required).keys.length = place.keys.length + 1 := List.length_append

/-- Whether flattening is done depends on what it goes on with only. -/
theorem isSome_flattenWithin (spec : Spec) (steps : Nat) (schema : Document) (place : BodyPlace) :
    (spec.flattenWithin steps schema place).isSome = true ↔
      DoneWithin spec.continuations steps (schema, place.keys.length) := by
  induction steps generalizing schema place with
  | zero => simp [flattenWithin, DoneWithin]
  | succ steps ih =>
    rw [flattenWithin_succ, DoneWithin, continuations, continuationsOf]
    dsimp only
    cases bodyShape (spec.resolve schema) with
    | composed =>
      have hbranches : ((branches (spec.resolve schema)).mapM
          (spec.flattenWithin steps · (place.describe (spec.resolve schema)))).isSome = true ↔
          ∀ branch ∈ branches (spec.resolve schema),
            DoneWithin spec.continuations steps (branch, place.keys.length) := by
        simp only [isSome_mapM, ih, keys_describe]
      simp only [List.forall_mem_append, List.forall_mem_map, ← hbranches]
      split_ifs
      · have hown := ih (withoutBranches (spec.resolve schema))
          (place.describe (spec.resolve schema))
        rw [keys_describe] at hown
        rw [List.forall_mem_singleton, ← hown]
        cases spec.flattenWithin steps (withoutBranches (spec.resolve schema))
          (place.describe (spec.resolve schema)) <;> simp
      · simp
    | fields properties =>
      simp only [keys_describe]
      split_ifs
      · simp only [Option.isSome_map, isSome_mapM, ih, length_keys_property, keys_describe,
          List.forall_mem_map]
      · simp
    | dictionary => simp
    | leaf => simp

/-! ### The same arguments within more steps -/

theorem mapM_congr {α β : Type} {f g : α → Option β} {items : List α}
    (h : ∀ item ∈ items, f item = g item) : items.mapM f = items.mapM g := by
  induction items with
  | nil => rfl
  | cons first rest ih =>
    rw [List.forall_mem_cons] at h
    rw [List.mapM_cons, List.mapM_cons, h.1, ih h.2]

/-- One step gives the same in two descriptions, where the resolved schema and its type hint are the
same and flattening goes on to the same. -/
theorem flattenWithin_succ_congr {spec other : Spec} {steps more : Nat} {schema : Document}
    {place : BodyPlace} (hresolve : spec.resolve schema = other.resolve schema)
    (hhint : spec.leafHint (spec.resolve schema) = other.leafHint (spec.resolve schema))
    (h : ∀ state ∈ spec.continuations (schema, place.keys.length), ∀ inner : BodyPlace,
      inner.keys.length = state.2 →
        spec.flattenWithin steps state.1 inner = other.flattenWithin more state.1 inner) :
    spec.flattenWithin (steps + 1) schema place = other.flattenWithin (more + 1) schema place := by
  rw [flattenWithin_succ, flattenWithin_succ, ← hresolve]
  unfold continuations continuationsOf at h
  dsimp only at h ⊢
  cases hshape : bodyShape (spec.resolve schema) with
  | composed =>
    rw [hshape] at h
    simp only [List.forall_mem_append, List.forall_mem_map] at h
    -- Branches and own properties stand at the place of the schema, as deep as it is.
    have hbranches : (branches (spec.resolve schema)).mapM
          (spec.flattenWithin steps · (place.describe (spec.resolve schema)))
        = (branches (spec.resolve schema)).mapM
          (other.flattenWithin more · (place.describe (spec.resolve schema))) :=
      mapM_congr fun branch hbranch =>
        h.2 branch hbranch (place.describe (spec.resolve schema)) (by simp)
    dsimp only
    rw [hbranches]
    split_ifs with hproperties
    · rw [if_pos hproperties, List.forall_mem_singleton] at h
      rw [h.1 (place.describe (spec.resolve schema)) (by simp)]
    · rfl
  | fields properties =>
    rw [hshape] at h
    dsimp only
    split_ifs with hdepth
    · rw [keys_describe] at hdepth
      simp only [hdepth, if_true, List.forall_mem_map] at h
      rw [mapM_congr fun entry hentry =>
        h entry hentry _ (by rw [length_keys_property, keys_describe])]
    · rfl
  | dictionary => rfl
  | leaf =>
    dsimp only
    rw [hhint]

theorem flattenWithin_add_one {spec : Spec} {steps : Nat} {schema : Document} {place : BodyPlace}
    (h : (spec.flattenWithin steps schema place).isSome = true) :
    spec.flattenWithin steps schema place = spec.flattenWithin (steps + 1) schema place := by
  induction steps generalizing schema place with
  | zero => cases h
  | succ steps ih =>
    rw [isSome_flattenWithin] at h
    refine flattenWithin_succ_congr rfl rfl ?_
    intro state hstate inner hinner
    apply ih
    rw [isSome_flattenWithin, hinner]
    exact h state hstate

theorem flattenWithin_mono {spec : Spec} {steps more : Nat} (hle : steps ≤ more)
    {schema : Document} {place : BodyPlace}
    (h : (spec.flattenWithin steps schema place).isSome = true) :
    spec.flattenWithin steps schema place = spec.flattenWithin more schema place := by
  induction hle with
  | refl => rfl
  | step _ ih =>
    rw [ih] at h ⊢
    exact flattenWithin_add_one h

/-- The arguments that are found within some steps are found within more. -/
theorem flattenWithin_of_le {spec : Spec} {steps more : Nat} (hle : steps ≤ more)
    {schema : Document} {place : BodyPlace} {arguments : List Argument}
    (h : spec.flattenWithin steps schema place = some arguments) :
    spec.flattenWithin more schema place = some arguments := by
  rw [← flattenWithin_mono hle (Option.isSome_of_eq_some h), h]

/-! ### Enough steps -/

/-- The schemas that flattening can meet: those in the description and in the schema, with and
without their branches. -/
def bodySchemas (spec : Spec) (schema : Document) : List Document :=
  (spec.root.parts ++ schema.parts) ++ (spec.root.parts ++ schema.parts).map withoutBranches

/-- The schemas that flattening can meet, at each depth. -/
def bodyStates (spec : Spec) (schema : Document) : List (Document × Nat) :=
  (spec.bodySchemas schema) ×ˢ List.range (maxBodyDepth + 1)

theorem length_bodyStates_le (spec : Spec) (schema : Document) :
    (spec.bodyStates schema).length ≤ spec.flattenSteps schema := by
  unfold bodyStates bodySchemas flattenSteps
  rw [List.length_product, List.length_range, List.length_append, List.length_map,
    List.length_append, length_parts, length_parts, Nat.mul_comm]
  apply Nat.mul_le_mul_left
  omega

theorem get?_withoutBranches (schema : Document) (key : String) :
    (withoutBranches schema).get? key
      = if key ∈ compositionKeys then none else schema.get? key := by
  cases schema with
  | object members => exact Members.get?_foldl_erase compositionKeys members key
  | _ => exact (ite_self _).symm

theorem branches_withoutBranches (schema : Document) : branches (withoutBranches schema) = [] := by
  unfold branches getItems?
  simp only [get?_withoutBranches, compositionKeys]
  simp

theorem mem_parts_of_mem_branches {schema branch : Document} (h : branch ∈ branches schema) :
    branch ∈ schema.parts := by
  obtain ⟨key, -, hbranch⟩ := List.mem_flatMap.mp h
  cases hitems : schema.getItems? key with
  | none => simp [hitems] at hbranch
  | some items =>
    rw [hitems] at hbranch
    exact mem_parts_of_getItems? hitems hbranch

/-- Flattening goes on with the schema without its branches and with these where it has any, and
with its properties where it has none. -/
theorem mem_continuationsOf {schema : Document} {depth : Nat} {state : Document × Nat}
    (h : state ∈ continuationsOf schema depth) :
    (state.2 = depth ∧ branches schema ≠ [] ∧
      (state.1 = withoutBranches schema ∨ state.1 ∈ branches schema)) ∨
    (state.2 = depth + 1 ∧ depth < maxBodyDepth ∧
      ∃ properties, schema.getMembers? "properties" = some properties ∧
        ∃ entry ∈ properties, state.1 = entry.2) := by
  unfold continuationsOf at h
  cases hshape : bodyShape schema with
  | composed =>
    -- Without branches the shape would be another one.
    have hne : branches schema ≠ [] := by
      intro hnil
      unfold bodyShape at hshape
      rw [if_neg (by simp [hnil])] at hshape
      split_ifs at hshape
      split at hshape <;> cases hshape
    simp only [hshape, List.mem_append, List.mem_map] at h
    left
    rcases h with h | ⟨branch, hbranch, rfl⟩
    · split_ifs at h
      · rw [List.mem_singleton] at h
        subst h
        exact ⟨rfl, hne, .inl rfl⟩
      · cases h
    · exact ⟨rfl, hne, .inr hbranch⟩
  | fields properties =>
    have hproperties : schema.getMembers? "properties" = some properties := by
      unfold bodyShape at hshape
      split_ifs at hshape
      split at hshape
      · rename_i hget
        cases hshape
        exact hget
      · cases hshape
    simp only [hshape] at h
    split_ifs at h with hdepth
    · obtain ⟨entry, hentry, rfl⟩ := List.mem_map.mp h
      exact .inr ⟨rfl, hdepth, properties, hproperties, entry, hentry, rfl⟩
    · cases h
  | dictionary => simp [hshape] at h
  | leaf => simp [hshape] at h

theorem mem_bodySchemas {spec : Spec} {schema other : Document} :
    other ∈ spec.bodySchemas schema ↔
      ∃ part ∈ spec.root.parts ++ schema.parts, other = part ∨ other = withoutBranches part := by
  unfold bodySchemas
  rw [List.mem_append, List.mem_map]
  constructor
  · rintro (hpart | ⟨part, hpart, rfl⟩)
    · exact ⟨other, hpart, .inl rfl⟩
    · exact ⟨part, hpart, .inr rfl⟩
  · rintro ⟨part, hpart, rfl | rfl⟩
    · exact .inl hpart
    · exact .inr ⟨part, hpart, rfl⟩

/-- The schemas that flattening can meet are closed under going on. -/
theorem bodyStates_closed {spec : Spec} {schema : Document} {state other : Document × Nat}
    (hstate : state ∈ spec.bodyStates schema) (hother : other ∈ spec.continuations state) :
    other ∈ spec.bodyStates schema := by
  obtain ⟨doc, depth⟩ := state
  unfold bodyStates at hstate ⊢
  rw [List.mem_product, List.mem_range] at hstate ⊢
  obtain ⟨hdoc, hdepth⟩ := hstate
  have hclosed : ∀ node ∈ spec.root.parts ++ schema.parts, ∀ part ∈ node.parts,
      part ∈ spec.root.parts ++ schema.parts := by
    intro node hnode part hpart
    rw [List.mem_append] at hnode ⊢
    exact hnode.imp (mem_parts_trans _ hpart) (mem_parts_trans _ hpart)
  -- The schema that is resolved is met with its branches, or is met without them already.
  have hresolved : spec.resolve doc ∈ spec.root.parts ++ schema.parts ∨
      ∃ part ∈ spec.root.parts ++ schema.parts, spec.resolve doc = withoutBranches part := by
    rcases spec.resolve_mem doc with hsame | hpart
    · rw [hsame]
      obtain ⟨part, hpart, rfl | rfl⟩ := mem_bodySchemas.mp hdoc
      · exact .inl hpart
      · exact .inr ⟨part, hpart, rfl⟩
    · exact .inl (List.mem_append_left _ hpart)
  rcases mem_continuationsOf hother with
    ⟨hsame, hne, hschema⟩ | ⟨hdeeper, hlt, properties, hproperties, entry, hentry, hschema⟩
  · refine ⟨?_, by omega⟩
    rcases hresolved with hpart | ⟨part, -, hpart⟩
    · rcases hschema with hschema | hschema
      · exact mem_bodySchemas.mpr ⟨_, hpart, .inr hschema⟩
      · have hpart' := mem_parts_of_mem_branches hschema
        exact mem_bodySchemas.mpr ⟨_, hclosed _ hpart _ hpart', .inl rfl⟩
    · rw [hpart, branches_withoutBranches] at hne
      exact absurd rfl hne
  · refine ⟨?_, by unfold maxBodyDepth at hlt ⊢; omega⟩
    have hentry' : ∃ node ∈ spec.root.parts ++ schema.parts, entry.2 ∈ node.parts := by
      rcases hresolved with hpart | ⟨part, hmem, hpart⟩
      · exact ⟨_, hpart, mem_parts_of_getMembers? hproperties hentry⟩
      · refine ⟨part, hmem, ?_⟩
        have hget : part.getMembers? "properties" = some properties := by
          rw [← hproperties, hpart]
          unfold getMembers?
          rw [get?_withoutBranches, if_neg (by decide)]
        exact mem_parts_of_getMembers? hget hentry
    obtain ⟨node, hnode, hpart⟩ := hentry'
    exact mem_bodySchemas.mpr ⟨_, hclosed node hnode _ hpart, .inl hschema⟩

/-- A schema has the arguments that it has within any number of steps. -/
theorem flatten_eq_some_iff {spec : Spec} {schema : Document} {place : BodyPlace}
    {arguments : List Argument} (hdepth : place.keys.length ≤ maxBodyDepth) :
    spec.flatten schema place = some arguments ↔
      ∃ steps, spec.flattenWithin steps schema place = some arguments := by
  constructor
  · exact fun h => ⟨_, h⟩
  · rintro ⟨steps, h⟩
    have hdone := (isSome_flattenWithin spec steps schema place).mp (by rw [h]; rfl)
    have hmem : (schema, place.keys.length) ∈ spec.bodyStates schema := by
      unfold bodyStates
      rw [List.mem_product, List.mem_range]
      refine ⟨mem_bodySchemas.mpr ⟨schema, ?_, .inl rfl⟩, by omega⟩
      exact List.mem_append_right _ (self_mem_parts schema)
    have henough := doneWithin_length (spec.bodyStates schema)
      (fun _ hstate _ => bodyStates_closed hstate) hmem ⟨steps, hdone⟩
    have hflatten := (isSome_flattenWithin spec _ schema place).mpr
      (henough.mono (spec.length_bodyStates_le schema))
    -- Both numbers of steps give what the greater one gives.
    have hsteps := flattenWithin_mono (Nat.le_max_left steps (spec.flattenSteps schema))
      (by rw [h]; rfl : (spec.flattenWithin steps schema place).isSome = true)
    have henough := flattenWithin_mono (Nat.le_max_right steps (spec.flattenSteps schema)) hflatten
    unfold flatten
    rw [henough, ← hsteps, h]

end Spec

end ApiTools
