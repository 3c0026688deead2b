import ApiTools.Proofs.Document.FirstWins
import ApiTools.Proofs.Tool.BodyKeys
import ApiTools.Proofs.Tool.Signature

/-!
# The parts that flattening meets

The arguments of a schema at a place stand for the place itself or for one below it, and their names
say which (`Spec.spot_of_mem_flattenWithin`).

Flattening goes from a schema through its branches, and the branches of these, to parts that are not
composed any more (`Spec.Meets`).  Each such part is taken apart where the schema stands, by its
properties or as a whole (`Spec.partArguments`).  The arguments of a schema are those of the parts
that it meets: each argument is one of a part (`exists_part_of_mem`), and each argument of a part is
one of the schema or has the signature of one (`exists_signature_of_meets`).
-/

namespace ApiTools

open Document Text

namespace Spec

variable {spec : Spec} {schema part : Document} {place inner : BodyPlace}
  {arguments found : List Argument} {a : Argument} {steps : Nat}

/-! ### Places -/

/-- The two places differ at most in what is said about them. -/
structure BodyPlace.SameSpot (place inner : BodyPlace) : Prop where
  name : inner.name = place.name
  keys : inner.keys = place.keys
  required : inner.required = place.required

namespace BodyPlace

theorem sameSpot_describe (place : BodyPlace) (schema : Document) :
    place.SameSpot (place.describe schema) := by
  unfold describe
  split <;> exact ⟨rfl, rfl, rfl⟩

theorem SameSpot.trans {third : BodyPlace} (h : place.SameSpot inner) (h' : inner.SameSpot third) :
    place.SameSpot third :=
  ⟨h'.name.trans h.name, h'.keys.trans h.keys, h'.required.trans h.required⟩

theorem isRequired_argument (place : BodyPlace) (hint : TypeHint) :
    (place.argument hint).isRequired = place.required := by
  unfold argument Argument.isRequired
  cases place.required <;> rfl

/-- The name of a body is made of characters of identifiers. -/
theorem isIdentifierChar_body : ∀ c ∈ "body".toList, isIdentifierChar c = true :=
  List.all_eq_true.mp rfl

/-- The name of a place below goes on with an underscore and characters of identifiers. -/
theorem name_property (place : BodyPlace) (name : String) (required : Bool) :
    ∃ rest, (place.property name required).name.toList = place.name.toList ++ '_' :: rest ∧
      ∀ c ∈ rest, isIdentifierChar c = true := by
  have hidentifier := Naming.isIdentifierChar_identifier name
  unfold property
  by_cases hroot : place.keys.isEmpty = true
  · refine ⟨(Naming.identifier name).toList, by simp [hroot, String.toList_append], hidentifier⟩
  · refine ⟨'_' :: (Naming.identifier name).toList, by simp [hroot, String.toList_append], ?_⟩
    rw [List.forall_mem_cons]
    exact ⟨by decide, hidentifier⟩

end BodyPlace

/-- The argument stands for the place itself. -/
def StandsAt (place : BodyPlace) (a : Argument) : Prop :=
  ∃ inner hint, place.SameSpot inner ∧ a = inner.argument hint

/-- The argument stands for a place below, and its name says so. -/
structure StandsBelow (place : BodyPlace) (a : Argument) : Prop where
  keys : ∃ name names, a.keys = place.keys ++ name :: names
  name : ∃ rest, a.name.toList = place.name.toList ++ '_' :: rest ∧
    ∀ c ∈ rest, isIdentifierChar c = true
  default : a.default? = none ∨ a.default? = some "None"

theorem StandsAt.of_sameSpot (hspot : place.SameSpot inner) (h : StandsAt inner a) :
    StandsAt place a := by
  obtain ⟨further, hint, hfurther, rfl⟩ := h
  exact ⟨further, hint, hspot.trans hfurther, rfl⟩

theorem StandsBelow.of_sameSpot (hspot : place.SameSpot inner) (h : StandsBelow inner a) :
    StandsBelow place a := by
  obtain ⟨hkeys, hname, hdefault⟩ := h
  rw [hspot.keys] at hkeys
  rw [hspot.name] at hname
  exact ⟨hkeys, hname, hdefault⟩

theorem name_of_standsAt (h : StandsAt place a) : a.name = place.name := by
  obtain ⟨inner, hint, hspot, rfl⟩ := h
  exact hspot.name

theorem keys_of_standsAt (h : StandsAt place a) : a.keys = place.keys := by
  obtain ⟨inner, hint, hspot, rfl⟩ := h
  exact hspot.keys

theorem isRequired_of_standsAt (h : StandsAt place a) : a.isRequired = place.required := by
  obtain ⟨inner, hint, hspot, rfl⟩ := h
  rw [BodyPlace.isRequired_argument, hspot.required]

theorem default?_of_standsAt (h : StandsAt place a) :
    a.default? = if place.required then none else some "None" := by
  obtain ⟨inner, hint, hspot, rfl⟩ := h
  rw [← hspot.required]
  rfl

/-- What stands for a property, or for a place below it, stands below. -/
theorem standsBelow_of_property {name : String} {required : Bool}
    (h : StandsAt (place.property name required) a ∨ StandsBelow (place.property name required) a) :
    StandsBelow place a := by
  obtain ⟨rest, hrest, hchars⟩ := place.name_property name required
  rcases h with ⟨inner, hint, hspot, rfl⟩ | ⟨⟨next, names, hkeys⟩, ⟨more, hmore, hchars'⟩, hdefault⟩
  · refine ⟨⟨name, [], hspot.keys⟩, ⟨rest, ?_, hchars⟩, ?_⟩
    · rw [← hrest, ← hspot.name]
      rfl
    · unfold BodyPlace.argument
      cases inner.required
      · exact .inr rfl
      · exact .inl rfl
  · refine ⟨⟨name, next :: names, ?_⟩, ⟨rest ++ '_' :: more, ?_, ?_⟩, hdefault⟩
    · rw [hkeys]
      exact List.append_assoc _ [name] _
    · rw [hmore, hrest, List.append_assoc, List.cons_append]
    · rw [List.forall_mem_append, List.forall_mem_cons]
      exact ⟨hchars, by decide, hchars'⟩

/-- The arguments of a schema at a place stand for this place or for one below it. -/
theorem spot_of_mem_flattenWithin (h : spec.flattenWithin steps schema place = some arguments)
    (ha : a ∈ arguments) : StandsAt place a ∨ StandsBelow place a := by
  induction steps generalizing schema place arguments with
  | zero => cases h
  | succ steps ih =>
    have hspot := place.sameSpot_describe (spec.resolve schema)
    rcases mem_flattenWithin_succ h ha with
      ⟨hint, rfl⟩ | ⟨next, -, -, inner, found, hnext, hfound, ha⟩
    · exact .inl ⟨_, hint, hspot, rfl⟩
    · cases hnext with
      | own | branch => exact (ih hfound ha).imp (.of_sameSpot hspot) (.of_sameSpot hspot)
      | property => exact .inr ((standsBelow_of_property (ih hfound ha)).of_sameSpot hspot)

/-- Whether an argument stands for the place itself is told by its name. -/
theorem StandsBelow.name_ne (h : StandsBelow place a) : a.name ≠ place.name := by
  obtain ⟨rest, hrest, -⟩ := h.name
  intro heq
  rw [heq] at hrest
  simp at hrest

theorem StandsBelow.keys_ne (h : StandsBelow place a) : a.keys ≠ place.keys := by
  obtain ⟨name, names, hkeys⟩ := h.keys
  intro heq
  rw [heq] at hkeys
  simp at hkeys

/-- The arguments at a place whose name is made of characters of identifiers are plain. -/
theorem isPlain_of_spot (hplace : ∀ c ∈ place.name.toList, isIdentifierChar c = true)
    (h : StandsAt place a ∨ StandsBelow place a) : a.IsPlain := by
  rcases h with hat | hbelow
  · rw [← name_of_standsAt hat] at hplace
    refine ⟨hplace, ?_⟩
    rw [default?_of_standsAt hat]
    cases place.required
    · exact .inr rfl
    · exact .inl rfl
  · obtain ⟨rest, hrest, hchars⟩ := hbelow.name
    refine ⟨?_, hbelow.default⟩
    rw [hrest, List.forall_mem_append, List.forall_mem_cons]
    exact ⟨hplace, by decide, hchars⟩

/-! ### Parts -/

/-- The parts that flattening of a schema comes to without a property between: the schema itself
where it is not composed, and else the parts of its own properties and of its branches. -/
inductive Meets (spec : Spec) : Document → Document → Prop
  | here {schema : Document} (h : bodyShape (spec.resolve schema) ≠ .composed) :
    Meets spec schema (spec.resolve schema)
  | own {schema part : Document} (hcomposed : bodyShape (spec.resolve schema) = .composed)
      (hproperties : (spec.resolve schema).has "properties" = true)
      (h : Meets spec (withoutBranches (spec.resolve schema)) part) : Meets spec schema part
  | branch {schema branch part : Document}
      (hcomposed : bodyShape (spec.resolve schema) = .composed)
      (hbranch : branch ∈ branches (spec.resolve schema)) (h : Meets spec branch part) :
    Meets spec schema part

theorem Meets.not_composed (h : spec.Meets schema part) : bodyShape part ≠ .composed := by
  induction h with
  | here h => exact h
  | own _ _ _ ih => exact ih
  | branch _ _ _ ih => exact ih

/-- The arguments of a part that is not composed, at a place. -/
def partArguments (spec : Spec) (steps : Nat) (part : Document) (place : BodyPlace) :
    Option (List Argument) :=
  match bodyShape part with
  | .fields properties =>
    if place.keys.length < maxBodyDepth then
      (properties.mapM fun entry => spec.flattenWithin steps entry.2
        (place.property entry.1 ((requiredNames part).contains entry.1))).map List.flatten
    else some [place.argument .dict]
  | .composed | .dictionary => some [place.argument .dict]
  | .leaf => some [place.argument (spec.leafHint part)]

/-- A schema that is not composed has the arguments of the part that it is. -/
theorem flattenWithin_of_not_composed (h : bodyShape (spec.resolve schema) ≠ .composed) :
    spec.flattenWithin (steps + 1) schema place
      = spec.partArguments steps (spec.resolve schema) (place.describe (spec.resolve schema)) := by
  rw [flattenWithin_succ]
  unfold partArguments
  dsimp only
  cases hshape : bodyShape (spec.resolve schema) with
  | composed => exact absurd hshape h
  | fields => dsimp only
  | dictionary => dsimp only
  | leaf => dsimp only

/-- One step of flattening of a composed schema. -/
theorem flattenWithin_composed (hcomposed : bodyShape (spec.resolve schema) = .composed)
    (steps : Nat) : spec.flattenWithin (steps + 1) schema place
      = (if (spec.resolve schema).has "properties" then
          spec.flattenWithin steps (withoutBranches (spec.resolve schema))
            (place.describe (spec.resolve schema))
        else some []).bind fun own =>
          ((branches (spec.resolve schema)).mapM
            (spec.flattenWithin steps · (place.describe (spec.resolve schema)))).map
            (List.foldl addArguments own) := by
  rw [flattenWithin_succ]
  simp only [hcomposed]

/-- A composed schema has the arguments of its own properties and those of each branch. -/
theorem flattenWithin_of_composed (hcomposed : bodyShape (spec.resolve schema) = .composed)
    (h : spec.flattenWithin (steps + 1) schema place = some arguments) :
    ∃ own found, (if (spec.resolve schema).has "properties" then
        spec.flattenWithin steps (withoutBranches (spec.resolve schema))
          (place.describe (spec.resolve schema))
      else some []) = some own ∧
      (branches (spec.resolve schema)).mapM
        (spec.flattenWithin steps · (place.describe (spec.resolve schema))) = some found ∧
      arguments = found.foldl addArguments own := by
  rw [flattenWithin_composed hcomposed] at h
  obtain ⟨own, hown, h⟩ := Option.bind_eq_some_iff.mp h
  obtain ⟨found, hfound, rfl⟩ := Option.map_eq_some_iff.mp h
  exact ⟨own, found, hown, hfound, rfl⟩

theorem branches_ne_nil_of_composed (h : bodyShape schema = .composed) : branches schema ≠ [] := by
  unfold bodyShape at h
  split_ifs at h with hbranches
  · rintro hnil
    simp [hnil] at hbranches
  · split at h <;> cases h

theorem fields_ne_nil {properties : Members} (h : bodyShape schema = .fields properties) :
    properties ≠ [] := by
  unfold bodyShape at h
  split_ifs at h
  split at h
  · cases h
    exact List.cons_ne_nil _ _
  · cases h

/-! ### Arguments of parts -/

/-- At the root of a body a part with fields has the arguments of each of its properties. -/
theorem partArguments_of_fields {properties : Members} (hshape : bodyShape part = .fields properties)
    (hplace : place.keys = []) : spec.partArguments steps part place
      = (properties.mapM fun entry => spec.flattenWithin steps entry.2
        (place.property entry.1 ((requiredNames part).contains entry.1))).map List.flatten := by
  have hdepth : place.keys.length < maxBodyDepth := by
    rw [hplace]
    decide
  unfold partArguments
  simp only [hshape, if_pos hdepth]

/-- There each argument of the part is one of a property. -/
theorem exists_entry_of_mem {properties : Members} (hshape : bodyShape part = .fields properties)
    (hplace : place.keys = []) (h : spec.partArguments steps part place = some found)
    (ha : a ∈ found) : ∃ entry ∈ properties, ∃ more, spec.flattenWithin steps entry.2
      (place.property entry.1 ((requiredNames part).contains entry.1)) = some more ∧ a ∈ more := by
  rw [partArguments_of_fields hshape hplace] at h
  obtain ⟨groups, hgroups, rfl⟩ := Option.map_eq_some_iff.mp h
  obtain ⟨more, hmore, ha⟩ := List.mem_flatten.mp ha
  obtain ⟨entry, hentry, hgiven⟩ := exists_of_mem_mapM hgroups hmore
  exact ⟨entry, hentry, more, hgiven, ha⟩

/-- There the arguments of each property are arguments of the part. -/
theorem exists_subset_of_entry {properties : Members} {entry : String × Document}
    (hshape : bodyShape part = .fields properties) (hplace : place.keys = [])
    (h : spec.partArguments steps part place = some found) (hentry : entry ∈ properties) :
    ∃ more, spec.flattenWithin steps entry.2
      (place.property entry.1 ((requiredNames part).contains entry.1)) = some more ∧
      more ⊆ found := by
  rw [partArguments_of_fields hshape hplace] at h
  obtain ⟨groups, hgroups, rfl⟩ := Option.map_eq_some_iff.mp h
  obtain ⟨more, hmore, hgiven⟩ := exists_mem_of_mapM hgroups hentry
  exact ⟨more, hgiven, fun a ha => List.mem_flatten_of_mem hmore ha⟩

/-- Each argument of a schema is one of a part that it meets. -/
theorem exists_part_of_mem (h : spec.flattenWithin steps schema place = some arguments)
    (ha : a ∈ arguments) : ∃ part, spec.Meets schema part ∧ ∃ fewer inner found,
      place.SameSpot inner ∧ spec.partArguments fewer part inner = some found ∧ a ∈ found := by
  induction steps generalizing schema place arguments with
  | zero => cases h
  | succ steps ih =>
    have hspot := place.sameSpot_describe (spec.resolve schema)
    by_cases hcomposed : bodyShape (spec.resolve schema) = .composed
    · obtain ⟨own, found, hown, hfound, rfl⟩ := flattenWithin_of_composed hcomposed h
      rcases mem_foldl_addArguments ha with ha | ⟨more, hmore, ha⟩
      · split_ifs at hown with hproperties
        · obtain ⟨part, hmet, fewer, inner, found, hinner, hpart, ha⟩ := ih hown ha
          exact ⟨part, .own hcomposed hproperties hmet, fewer, inner, found, hspot.trans hinner,
            hpart, ha⟩
        · cases hown
          cases ha
      · obtain ⟨branch, hbranch, hgiven⟩ := exists_of_mem_mapM hfound hmore
        obtain ⟨part, hmet, fewer, inner, found, hinner, hpart, ha⟩ := ih hgiven ha
        exact ⟨part, .branch hcomposed hbranch hmet, fewer, inner, found, hspot.trans hinner,
          hpart, ha⟩
    · rw [flattenWithin_of_not_composed hcomposed] at h
      exact ⟨_, .here hcomposed, steps, _, arguments, hspot, h, ha⟩

theorem mem_foldl_addArguments_of_mem {found : List (List Argument)} {own : List Argument}
    (h : a ∈ own) : a ∈ found.foldl addArguments own := by
  rw [foldl_addArguments]
  exact mem_addNew_of_mem_known h

/-- Each argument of a branch is there, or one with its signature. -/
theorem exists_signature_foldl_addArguments {found : List (List Argument)} (own : List Argument)
    {more : List Argument} (hmore : more ∈ found) (h : a ∈ more) :
    ∃ b ∈ found.foldl addArguments own, b.signature = a.signature := by
  rw [foldl_addArguments]
  have hall : a ∈ found.flatten := List.mem_flatten_of_mem hmore h
  rcases mem_addNew_or_same Argument.sameSignature own hall with hmem | ⟨b, hb, hsame⟩
  · exact ⟨a, hmem, rfl⟩
  · exact ⟨b, hb, of_decide_eq_true hsame⟩

/-- Each argument of a part that a schema meets is one of the schema, or has the signature of one. -/
theorem exists_signature_of_meets (hmet : spec.Meets schema part)
    (h : spec.flattenWithin steps schema place = some arguments) :
    ∃ fewer inner found, place.SameSpot inner ∧ spec.partArguments fewer part inner = some found ∧
      ∀ a ∈ found, ∃ b ∈ arguments, b.signature = a.signature := by
  induction hmet generalizing steps place arguments with
  | @here schema hshape =>
    cases steps with
    | zero => cases h
    | succ steps =>
      rw [flattenWithin_of_not_composed hshape] at h
      exact ⟨steps, _, arguments, place.sameSpot_describe _, h, fun a ha => ⟨a, ha, rfl⟩⟩
  | @own schema part hcomposed hproperties _ ih =>
    cases steps with
    | zero => cases h
    | succ steps =>
      obtain ⟨own, found, hown, -, rfl⟩ := flattenWithin_of_composed hcomposed h
      rw [if_pos hproperties] at hown
      obtain ⟨fewer, inner, given, hinner, hpart, hall⟩ := ih hown
      refine ⟨fewer, inner, given, (place.sameSpot_describe _).trans hinner, hpart, ?_⟩
      intro a ha
      obtain ⟨b, hb, hsame⟩ := hall a ha
      exact ⟨b, mem_foldl_addArguments_of_mem hb, hsame⟩
  | @branch schema branch part hcomposed hbranch _ ih =>
    cases steps with
    | zero => cases h
    | succ steps =>
      obtain ⟨own, found, -, hfound, rfl⟩ := flattenWithin_of_composed hcomposed h
      obtain ⟨more, hmore, hgiven⟩ := exists_mem_of_mapM hfound hbranch
      obtain ⟨fewer, inner, given, hinner, hpart, hall⟩ := ih hgiven
      refine ⟨fewer, inner, given, (place.sameSpot_describe _).trans hinner, hpart, ?_⟩
      intro a ha
      -- The argument of the branch may be left out for one that came first with its signature.
      obtain ⟨b, hb, hsame⟩ := hall a ha
      obtain ⟨c, hc, hsame'⟩ := exists_signature_foldl_addArguments own hmore hb
      exact ⟨c, hc, hsame'.trans hsame⟩

/-- A part has an argument where all schemas that flattening goes on with have one. -/
theorem partArguments_ne_nil_of
    (hall : ∀ {schema place arguments},
      spec.flattenWithin steps schema place = some arguments → arguments ≠ [])
    (h : spec.partArguments steps part place = some arguments) : arguments ≠ [] := by
  unfold partArguments at h
  cases hshape : bodyShape part with
  | composed | dictionary | leaf =>
    simp only [hshape] at h
    cases h
    exact List.cons_ne_nil _ _
  | fields properties =>
    simp only [hshape] at h
    split_ifs at h
    · obtain ⟨found, hfound, rfl⟩ := Option.map_eq_some_iff.mp h
      obtain ⟨entry, hentry⟩ := List.exists_mem_of_ne_nil _ (fields_ne_nil hshape)
      obtain ⟨more, hmore, hgiven⟩ := exists_mem_of_mapM hfound hentry
      obtain ⟨a, ha⟩ := List.exists_mem_of_ne_nil _ (hall hgiven)
      exact List.ne_nil_of_mem (List.mem_flatten_of_mem hmore ha)
    · cases h
      exact List.cons_ne_nil _ _

/-- No schema is without arguments. -/
theorem flattenWithin_ne_nil (h : spec.flattenWithin steps schema place = some arguments) :
    arguments ≠ [] := by
  induction steps generalizing schema place arguments with
  | zero => cases h
  | succ steps ih =>
    by_cases hcomposed : bodyShape (spec.resolve schema) = .composed
    · obtain ⟨own, found, -, hfound, rfl⟩ := flattenWithin_of_composed hcomposed h
      obtain ⟨branch, hbranch⟩ := List.exists_mem_of_ne_nil _ (branches_ne_nil_of_composed hcomposed)
      obtain ⟨more, hmore, hgiven⟩ := exists_mem_of_mapM hfound hbranch
      obtain ⟨a, ha⟩ := List.exists_mem_of_ne_nil _ (ih hgiven)
      obtain ⟨b, hb, -⟩ := exists_signature_foldl_addArguments own hmore ha
      exact List.ne_nil_of_mem hb
    · rw [flattenWithin_of_not_composed hcomposed] at h
      exact partArguments_ne_nil_of ih h

/-- No part is without arguments. -/
theorem partArguments_ne_nil (h : spec.partArguments steps part place = some arguments) :
    arguments ≠ [] :=
  partArguments_ne_nil_of flattenWithin_ne_nil h

end Spec

end ApiTools
