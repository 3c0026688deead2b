import ApiTools.Proofs.Tool.Required

/-!
# One argument for a whole body, or arguments for its fields

The template of a tool sends the first argument for the whole body where there is one, and puts the
body together from the fields otherwise.  A tool has only one of the two kinds of arguments exactly
where its bodies meet only one kind of parts (`Spec.whole_or_fields_iff`): all parts of all bodies
have fields, or there is one body, whose parts are all values or dictionaries written with the same
type hint.  A branch that only restricts an object is a value of its own, and gives a whole argument
beside the fields of the other branches (`Spec.not_whole_or_fields`).
-/

namespace ApiTools

open Document

/-- The arguments that go to the body. -/
def Tool.bodyArguments (tool : Tool) : List Argument := tool.arguments.filter (·.location = .body)

namespace Spec

variable {spec : Spec} {op : Operation} {tool : Tool} {schema part parameter : Document}
  {place : BodyPlace} {arguments known : List Argument} {a : Argument} {steps : Nat}
  {parts after : ToolParts}

/-! ### The bodies of an operation -/

/-- The schema and the place of a parameter in the body. -/
def parameterBody? (parameter : Document) : Option (Document × BodyPlace) :=
  match parameter.getText? "name", parameter.getText? "in" with
  | some _, some "body" => some (parameterSchema parameter,
      .root (isRequiredParameter parameter) (parameter.trimmedText "description"))
  | _, _ => none

/-- The schema and the place of the request body. -/
def requestBody? (spec : Spec) (op : Operation) : Option (Document × BodyPlace) :=
  op.requestBody?.bind fun body => (bodySchema? (spec.resolve body)).map fun schema =>
    (schema, .root (isRequiredParameter (spec.resolve body))
      ((spec.resolve body).trimmedText "description"))

/-- The bodies that an operation takes: those of its parameters, and the request body. -/
def bodies (spec : Spec) (op : Operation) : List (Document × BodyPlace) :=
  (spec.mergedParameters op).filterMap parameterBody? ++ (spec.requestBody? op).toList

theorem root_of_mem_bodies {body : Document × BodyPlace} (h : body ∈ spec.bodies op) :
    ∃ required description, body.2 = .root required description := by
  unfold bodies at h
  rcases List.mem_append.mp h with h | h
  · obtain ⟨parameter, -, hbody⟩ := List.mem_filterMap.mp h
    unfold parameterBody? at hbody
    split at hbody
    · cases hbody
      exact ⟨_, _, rfl⟩
    · cases hbody
  · obtain ⟨body, -, hbody⟩ := Option.bind_eq_some_iff.mp (Option.mem_toList.mp h)
    obtain ⟨schema, -, rfl⟩ := Option.map_eq_some_iff.mp hbody
    exact ⟨_, _, rfl⟩

/-- The bodies have these arguments. -/
def Gives (spec : Spec) (bodies : List (Document × BodyPlace)) (found : List (List Argument)) :
    Prop :=
  List.Forall₂ (fun body arguments => spec.flatten body.1 body.2 = some arguments) bodies found

namespace Gives

variable {bodies : List (Document × BodyPlace)} {found : List (List Argument)}
  {body : Document × BodyPlace}

theorem exists_body (h : spec.Gives bodies found) (hmem : arguments ∈ found) :
    ∃ body ∈ bodies, spec.flatten body.1 body.2 = some arguments := by
  unfold Gives at h
  obtain ⟨body, hbody, hgiven⟩ := exists_of_forall₂ h hmem
  exact ⟨body, hbody, hgiven⟩

theorem exists_arguments (h : spec.Gives bodies found) (hmem : body ∈ bodies) :
    ∃ arguments ∈ found, spec.flatten body.1 body.2 = some arguments := by
  unfold Gives at h
  obtain ⟨arguments, harguments, hgiven⟩ := exists_of_forall₂ h.flip hmem
  exact ⟨arguments, harguments, hgiven⟩

/-- Bodies that have one argument between them are one body. -/
theorem eq_singleton (h : spec.Gives bodies found) (hone : found.flatten = [a]) :
    ∃ body, bodies = [body] ∧ spec.flatten body.1 body.2 = some [a] := by
  cases h with
  | nil => cases hone
  | @cons body first bodies rest hfirst hrest =>
    have hfirstNe := flattenWithin_ne_nil hfirst
    rw [List.flatten_cons] at hone
    rcases List.append_eq_singleton_iff.mp hone with ⟨hnil, -⟩ | ⟨hsingle, hnil⟩
    · exact absurd hnil hfirstNe
    · cases hrest with
      | nil => exact ⟨body, rfl, hsingle ▸ hfirst⟩
      | cons hsecond _ =>
        have hsecondNe := flattenWithin_ne_nil hsecond
        rw [List.flatten_cons, List.append_eq_nil_iff] at hnil
        exact absurd hnil.1 hsecondNe

end Gives

theorem filter_body_of_flatten (h : spec.flatten schema place = some arguments) :
    arguments.filter (·.location = .body) = arguments := by
  rw [List.filter_eq_self]
  intro a ha
  simpa using (path_of_mem_flattenWithin h ha).1

/-- One more parameter adds the arguments of its body, where it has one. -/
theorem gives_addToolParameter (h : spec.addToolParameter parts parameter = some after) :
    ∃ found, spec.Gives (parameterBody? parameter).toList found ∧
      after.arguments.filter (·.location = .body)
        = parts.arguments.filter (·.location = .body) ++ found.flatten := by
  rcases addToolParameter_cases h with
    ⟨rfl, hpassed⟩ | ⟨name, hname, ⟨hin, rfl⟩ | ⟨hin, rfl⟩ | ⟨hin, found, hfound, rfl⟩⟩
  · have hnone : parameterBody? parameter = none := by
      unfold parameterBody?
      split
      · next hname hin =>
        rcases hpassed with hunnamed | helsewhere
        · rw [hunnamed] at hname
          cases hname
        · exact absurd hin (helsewhere "body" (by simp))
      · rfl
    rw [hnone]
    exact ⟨[], .nil, by simp⟩
  · refine ⟨[], ?_, by simp [pathArgument]⟩
    simp only [parameterBody?, hname, hin]
    exact .nil
  · refine ⟨[], ?_, by simp [queryArgument]⟩
    simp only [parameterBody?, hname, hin]
    exact .nil
  · refine ⟨[found], ?_, ?_⟩
    · simp only [parameterBody?, hname, hin]
      exact .cons hfound .nil
    · rw [List.filter_append, filter_body_of_flatten hfound, List.flatten_singleton]

/-- A run over the parameters adds the arguments of their bodies. -/
theorem gives_foldlM_addToolParameter {parameters : List Document}
    (h : parameters.foldlM spec.addToolParameter parts = some after) :
    ∃ found, spec.Gives (parameters.filterMap parameterBody?) found ∧
      after.arguments.filter (·.location = .body)
        = parts.arguments.filter (·.location = .body) ++ found.flatten := by
  induction parameters generalizing parts with
  | nil =>
    cases h
    exact ⟨[], .nil, by simp⟩
  | cons parameter rest ih =>
    rw [List.foldlM_cons] at h
    obtain ⟨next, hnext, h⟩ := Option.bind_eq_some_iff.mp h
    obtain ⟨first, hfirst, hadded⟩ := gives_addToolParameter hnext
    obtain ⟨found, hfound, hrest⟩ := ih h
    refine ⟨first ++ found, ?_, ?_⟩
    · have hsplit : (parameter :: rest).filterMap parameterBody?
          = (parameterBody? parameter).toList ++ rest.filterMap parameterBody? := by
        cases hbody : parameterBody? parameter <;> simp [hbody]
      rw [hsplit]
      exact List.rel_append hfirst hfound
    · rw [hrest, hadded, List.flatten_append, List.append_assoc]

theorem gives_bodyArguments (h : spec.bodyArguments op = some arguments) :
    ∃ found, spec.Gives (spec.requestBody? op).toList found ∧ arguments = found.flatten := by
  unfold bodyArguments at h
  unfold requestBody?
  split at h
  · next hbody =>
    cases h
    refine ⟨[], ?_, rfl⟩
    simp only [hbody]
    exact .nil
  · next body hbody =>
    dsimp only at h
    split at h
    · next hschema =>
      cases h
      refine ⟨[], ?_, rfl⟩
      simp only [hbody, Option.bind_some, hschema]
      exact .nil
    · next schema hschema =>
      refine ⟨[arguments], ?_, List.flatten_singleton.symm⟩
      simp only [hbody, Option.bind_some, hschema, Option.map_some]
      exact .cons h .nil

/-- The arguments of a tool that go to the body are those of the bodies of its operation, in an
order of their own. -/
theorem gives_of_tool? (h : spec.tool? op = some tool) :
    ∃ found, spec.Gives (spec.bodies op) found ∧ tool.bodyArguments.Perm found.flatten := by
  obtain ⟨parts, body, hparts, hbody, rfl⟩ := exists_of_tool? h
  obtain ⟨found, hfound, hfiltered⟩ := gives_foldlM_addToolParameter hparts
  obtain ⟨own, hown, rfl⟩ := gives_bodyArguments hbody
  refine ⟨found ++ own, List.rel_append hfound hown, ?_⟩
  have hflatten : own.flatten.filter (·.location = .body) = own.flatten := by
    rw [List.filter_eq_self]
    intro a ha
    obtain ⟨more, hmore, ha⟩ := List.mem_flatten.mp ha
    obtain ⟨body, -, hgiven⟩ := hown.exists_body hmore
    simpa using (path_of_mem_flattenWithin hgiven ha).1
  -- putting those first that must be given changes the order only
  have hperm : (requiredFirst (parts.arguments ++ own.flatten)).Perm
      (parts.arguments ++ own.flatten) := List.filter_append_perm _ _
  have hbody := hperm.filter (·.location = .body)
  rw [List.filter_append, hfiltered, hflatten] at hbody
  rw [List.flatten_append]
  exact hbody

/-! ### The arguments of one body -/

/-- Is the part taken apart by its properties? -/
def HasFields (part : Document) : Prop := ∃ properties, bodyShape part = .fields properties

/-- The type hint of the one argument for a part that has no fields. -/
def wholeHint? (spec : Spec) (part : Document) : Option TypeHint :=
  match bodyShape part with
  | .dictionary => some .dict
  | .leaf => some (spec.leafHint part)
  | _ => none

theorem wholeHint?_of_hasFields (h : HasFields part) : spec.wholeHint? part = none := by
  obtain ⟨properties, hshape⟩ := h
  rw [wholeHint?, hshape]

/-- A part that is met has fields, or it has one argument as a whole. -/
theorem Meets.hasFields_or (h : spec.Meets schema part) :
    HasFields part ∨ ∃ hint, spec.wholeHint? part = some hint := by
  unfold HasFields wholeHint?
  cases hshape : bodyShape part with
  | composed => exact absurd hshape h.not_composed
  | fields properties => exact .inl ⟨properties, rfl⟩
  | dictionary => exact .inr ⟨_, rfl⟩
  | leaf => exact .inr ⟨_, rfl⟩

/-- A part without fields has one argument, for its own place. -/
theorem partArguments_of_wholeHint? {hint : TypeHint} (h : spec.wholeHint? part = some hint) :
    spec.partArguments steps part place = some [place.argument hint] := by
  unfold wholeHint? at h
  unfold partArguments
  cases hshape : bodyShape part with
  | composed | fields =>
    rw [hshape] at h
    cases h
  | dictionary | leaf =>
    rw [hshape] at h
    cases h
    rfl

/-- The arguments of a part with fields stand below its place. -/
theorem standsBelow_of_hasFields {found : List Argument} (h : HasFields part)
    (hplace : place.keys = []) (hpart : spec.partArguments steps part place = some found)
    (ha : a ∈ found) : StandsBelow place a := by
  obtain ⟨properties, hshape⟩ := h
  obtain ⟨entry, -, more, hgiven, ha⟩ := exists_entry_of_mem hshape hplace hpart ha
  exact standsBelow_of_property (spot_of_mem_flattenWithin hgiven ha)

variable {required : Bool} {description : String}

theorem isPlain_of_root
    (h : spec.flatten schema (.root required description) = some arguments) (ha : a ∈ arguments) :
    a.IsPlain :=
  isPlain_of_spot BodyPlace.isIdentifierChar_body (spot_of_mem_flattenWithin h ha)

/-- An argument for the whole body is one of a part without fields. -/
theorem exists_whole_of_keys
    (h : spec.flatten schema (.root required description) = some arguments) (ha : a ∈ arguments)
    (hkeys : a.keys = []) : ∃ part, spec.Meets schema part ∧ spec.wholeHint? part = some a.hint := by
  obtain ⟨part, hmet, fewer, inner, found, hspot, hpart, ha⟩ := exists_part_of_mem h ha
  refine ⟨part, hmet, ?_⟩
  rcases hmet.hasFields_or with hfields | ⟨hint, hhint⟩
  · have hbelow := standsBelow_of_hasFields hfields hspot.keys hpart ha
    exact absurd (hkeys.trans hspot.keys.symm) hbelow.keys_ne
  · rw [partArguments_of_wholeHint? hhint] at hpart
    cases hpart
    rw [List.mem_singleton.mp ha]
    exact hhint

/-- Each part without fields gives an argument for the whole body with its type hint. -/
theorem exists_keys_of_whole {hint : TypeHint}
    (h : spec.flatten schema (.root required description) = some arguments)
    (hmet : spec.Meets schema part) (hhint : spec.wholeHint? part = some hint) :
    ∃ a ∈ arguments, a.keys = [] ∧ a.hint.render = hint.render := by
  obtain ⟨fewer, inner, found, hspot, hpart, hall⟩ := exists_signature_of_meets hmet h
  rw [partArguments_of_wholeHint? hhint, Option.some.injEq] at hpart
  have hat : StandsAt (.root required description) (inner.argument hint) := ⟨_, _, hspot, rfl⟩
  obtain ⟨a, ha, hsame⟩ := hall (inner.argument hint) (hpart ▸ List.mem_singleton_self _)
  have hplain : (inner.argument hint).IsPlain := isPlain_of_spot BodyPlace.isIdentifierChar_body (.inl hat)
  obtain ⟨hname, hrender, -⟩ :=
    (Argument.signature_eq_iff (isPlain_of_root h ha) hplain).mp hsame
  refine ⟨a, ha, ?_, hrender⟩
  -- an argument with the name of the body stands for it
  rcases spot_of_mem_flattenWithin h ha with hat' | hbelow
  · exact keys_of_standsAt hat'
  · exact absurd (hname.trans (name_of_standsAt hat)) hbelow.name_ne

/-- An argument for a field is one of a part with fields. -/
theorem exists_fields_of_keys
    (h : spec.flatten schema (.root required description) = some arguments) (ha : a ∈ arguments)
    (hkeys : a.keys ≠ []) : ∃ part, spec.Meets schema part ∧ HasFields part := by
  obtain ⟨part, hmet, fewer, inner, found, hspot, hpart, ha⟩ := exists_part_of_mem h ha
  refine ⟨part, hmet, ?_⟩
  rcases hmet.hasFields_or with hfields | ⟨hint, hhint⟩
  · exact hfields
  · rw [partArguments_of_wholeHint? hhint] at hpart
    cases hpart
    rw [List.mem_singleton.mp ha] at hkeys
    exact absurd hspot.keys hkeys

/-- Each part with fields gives an argument for a field. -/
theorem exists_keys_of_fields
    (h : spec.flatten schema (.root required description) = some arguments)
    (hmet : spec.Meets schema part) (hfields : HasFields part) :
    ∃ a ∈ arguments, a.keys ≠ [] := by
  obtain ⟨fewer, inner, found, hspot, hpart, hall⟩ := exists_signature_of_meets hmet h
  obtain ⟨b, hb⟩ := List.exists_mem_of_ne_nil _ (partArguments_ne_nil hpart)
  have hbelow := (standsBelow_of_hasFields hfields hspot.keys hpart hb).of_sameSpot hspot
  obtain ⟨a, ha, hsame⟩ := hall b hb
  have hplain : b.IsPlain := isPlain_of_spot BodyPlace.isIdentifierChar_body (.inr hbelow)
  obtain ⟨hname, -, -⟩ := (Argument.signature_eq_iff (isPlain_of_root h ha) hplain).mp hsame
  refine ⟨a, ha, ?_⟩
  rcases spot_of_mem_flattenWithin h ha with hat | hbelow'
  · exact absurd (hname.symm.trans (name_of_standsAt hat)) hbelow.name_ne
  · exact hbelow'.keys_ne

/-! ### No whole argument twice -/

/-- The arguments with the given names that lead to them have different signatures. -/
def DistinctAt (keys : List String) (arguments : List Argument) : Prop :=
  (arguments.filter (·.keys = keys)).Pairwise fun a b => a.signature ≠ b.signature

theorem distinctAt_foldl_addArguments {keys : List String} {found : List (List Argument)}
    (h : DistinctAt keys known) : DistinctAt keys (found.foldl addArguments known) := by
  have hsame : ∀ a b : Argument, a.signature ≠ b.signature ↔ a.sameSignature b = false := by
    simp [Argument.sameSignature]
  simp only [DistinctAt, hsame] at h ⊢
  rw [foldl_addArguments]
  exact pairwise_filter_addNew h

/-- No two arguments for the root of a body have one signature. -/
theorem distinctAt_flattenWithin (hplace : place.keys = [])
    (h : spec.flattenWithin steps schema place = some arguments) : DistinctAt [] arguments := by
  induction steps generalizing schema place arguments with
  | zero => cases h
  | succ steps ih =>
    have hspot := place.sameSpot_describe (spec.resolve schema)
    have hkeys := hspot.keys.trans hplace
    by_cases hcomposed : bodyShape (spec.resolve schema) = .composed
    · obtain ⟨own, found, hown, -, rfl⟩ := flattenWithin_of_composed hcomposed h
      apply distinctAt_foldl_addArguments
      split_ifs at hown
      · exact ih hkeys hown
      · cases hown
        exact .nil
    · have hmet : spec.Meets schema (spec.resolve schema) := .here hcomposed
      rw [flattenWithin_of_not_composed hcomposed] at h
      rcases hmet.hasFields_or with hfields | ⟨hint, hhint⟩
      · -- The arguments for fields stand below the root.
        have hnone : arguments.filter (·.keys = []) = [] := by
          rw [List.filter_eq_nil_iff]
          intro a ha
          have hne := (standsBelow_of_hasFields hfields hkeys h ha).keys_ne
          rw [hkeys] at hne
          simpa using hne
        rw [DistinctAt, hnone]
        exact .nil
      · rw [partArguments_of_wholeHint? hhint] at h
        cases h
        exact (List.pairwise_singleton ..).sublist List.filter_sublist

theorem standsAt_of_keys
    (h : spec.flatten schema (.root required description) = some arguments) (ha : a ∈ arguments)
    (hkeys : a.keys = []) : StandsAt (.root required description) a := by
  rcases spot_of_mem_flattenWithin h ha with hat | hbelow
  · exact hat
  · exact absurd hkeys hbelow.keys_ne

section Wholes

variable {text : String} (h : spec.flatten schema (.root required description) = some arguments)
  (hwhole : ∀ part, spec.Meets schema part →
    ∃ hint, spec.wholeHint? part = some hint ∧ hint.render = text)

include h hwhole

/-- Parts without fields give arguments for the whole body only. -/
theorem keys_eq_nil_of_wholes (ha : a ∈ arguments) : a.keys = [] := by
  by_contra hne
  obtain ⟨part, hmet, hfields⟩ := exists_fields_of_keys h ha hne
  obtain ⟨hint, hhint, -⟩ := hwhole part hmet
  rw [wholeHint?_of_hasFields hfields] at hhint
  cases hhint

theorem render_of_wholes (ha : a ∈ arguments) : a.hint.render = text := by
  obtain ⟨part, hmet, hhint⟩ := exists_whole_of_keys h ha (keys_eq_nil_of_wholes h hwhole ha)
  obtain ⟨hint, hhint', hrender⟩ := hwhole part hmet
  rw [hhint, Option.some.injEq] at hhint'
  exact hhint' ▸ hrender

/-- Parts without fields that are written with one type hint give arguments that are written
alike. -/
theorem signature_eq_of_wholes {b : Argument} (ha : a ∈ arguments) (hb : b ∈ arguments) :
    a.signature = b.signature := by
  have hat := standsAt_of_keys h ha (keys_eq_nil_of_wholes h hwhole ha)
  have hat' := standsAt_of_keys h hb (keys_eq_nil_of_wholes h hwhole hb)
  refine (Argument.signature_eq_iff (isPlain_of_root h ha) (isPlain_of_root h hb)).mpr ⟨?_, ?_, ?_⟩
  · exact (name_of_standsAt hat).trans (name_of_standsAt hat').symm
  · exact (render_of_wholes h hwhole ha).trans (render_of_wholes h hwhole hb).symm
  · exact (default?_of_standsAt hat).trans (default?_of_standsAt hat').symm

/-- No two whole arguments are written alike, so that there is only one of them. -/
theorem exists_single_of_wholes : ∃ a, arguments = [a] ∧ a.keys = [] := by
  have hkeys : ∀ a ∈ arguments, a.keys = [] := fun a ha => keys_eq_nil_of_wholes h hwhole ha
  have hall : arguments.filter (·.keys = []) = arguments :=
    List.filter_eq_self.mpr fun a ha => decide_eq_true (hkeys a ha)
  have hdistinct : arguments.Pairwise fun a b => a.signature ≠ b.signature := by
    have hdistinctAt := distinctAt_flattenWithin rfl h
    rwa [DistinctAt, hall] at hdistinctAt
  rcases arguments with _ | ⟨a, _ | ⟨b, rest⟩⟩
  · exact absurd rfl (flattenWithin_ne_nil h)
  · exact ⟨a, rfl, hkeys a (List.mem_cons_self ..)⟩
  · have hne := (List.pairwise_cons.mp hdistinct).1 b (List.mem_cons_self ..)
    have hsame := signature_eq_of_wholes h hwhole (a := a) (b := b) (by simp) (by simp)
    exact absurd hsame hne

end Wholes

/-- A body has one argument, for the whole of it, exactly where the parts that it meets have no
fields and are written with one type hint. -/
theorem exists_single_iff
    (h : spec.flatten schema (.root required description) = some arguments) :
    (∃ a, arguments = [a] ∧ a.keys = []) ↔ ∃ text, ∀ part, spec.Meets schema part →
      ∃ hint, spec.wholeHint? part = some hint ∧ hint.render = text := by
  constructor
  · rintro ⟨a, rfl, hkeys⟩
    refine ⟨a.hint.render, fun part hmet => ?_⟩
    rcases hmet.hasFields_or with hfields | ⟨hint, hhint⟩
    · obtain ⟨b, hb, hne⟩ := exists_keys_of_fields h hmet hfields
      rw [List.mem_singleton.mp hb] at hne
      exact absurd hkeys hne
    · obtain ⟨b, hb, -, hrender⟩ := exists_keys_of_whole h hmet hhint
      rw [List.mem_singleton.mp hb] at hrender
      exact ⟨hint, hhint, hrender.symm⟩
  · rintro ⟨text, hwhole⟩
    exact exists_single_of_wholes h hwhole

/-- A body has arguments for fields only exactly where all the parts that it meets have fields. -/
theorem forall_keys_ne_iff
    (h : spec.flatten schema (.root required description) = some arguments) :
    (∀ a ∈ arguments, a.keys ≠ []) ↔ ∀ part, spec.Meets schema part → HasFields part := by
  constructor
  · intro hkeys part hmet
    refine hmet.hasFields_or.resolve_right ?_
    rintro ⟨hint, hhint⟩
    obtain ⟨a, ha, hnone, -⟩ := exists_keys_of_whole h hmet hhint
    exact hkeys a ha hnone
  · intro hfields a ha hnone
    obtain ⟨part, hmet, hhint⟩ := exists_whole_of_keys h ha hnone
    rw [wholeHint?_of_hasFields (hfields part hmet)] at hhint
    cases hhint

/-! ### The arguments of a tool -/

/-- A tool has one argument for a whole body, or arguments for fields only, exactly where its bodies
meet only one kind of parts: there is one body, whose parts have no fields and are written with one
type hint, or all the parts of all the bodies have fields. -/
theorem whole_or_fields_iff (h : spec.tool? op = some tool) :
    ((∃ a, tool.bodyArguments = [a] ∧ a.keys = []) ∨ ∀ a ∈ tool.bodyArguments, a.keys ≠ []) ↔
      (∃ body text, spec.bodies op = [body] ∧ ∀ part, spec.Meets body.1 part →
        ∃ hint, spec.wholeHint? part = some hint ∧ hint.render = text) ∨
      ∀ body ∈ spec.bodies op, ∀ part, spec.Meets body.1 part → HasFields part := by
  obtain ⟨found, hgives, hperm⟩ := gives_of_tool? h
  refine or_congr ?_ ?_
  · constructor
    · rintro ⟨a, hone, hkeys⟩
      rw [hone] at hperm
      obtain ⟨body, hbody, hflatten⟩ := hgives.eq_singleton (List.singleton_perm.mp hperm).symm
      have hmem : body ∈ spec.bodies op := hbody ▸ List.mem_singleton_self body
      obtain ⟨required, description, hroot⟩ := root_of_mem_bodies hmem
      rw [hroot] at hflatten
      obtain ⟨text, hwhole⟩ := (exists_single_iff hflatten).mp ⟨a, rfl, hkeys⟩
      exact ⟨body, text, hbody, hwhole⟩
    · rintro ⟨body, text, hbody, hwhole⟩
      have hmem : body ∈ spec.bodies op := hbody ▸ List.mem_singleton_self body
      obtain ⟨required, description, hroot⟩ := root_of_mem_bodies hmem
      rw [hbody] at hgives
      obtain ⟨arguments, harguments, hflatten⟩ :=
        hgives.exists_arguments (List.mem_singleton_self body)
      rw [hroot] at hflatten
      obtain ⟨a, rfl, hkeys⟩ := (exists_single_iff hflatten).mpr ⟨text, hwhole⟩
      have hfound : found = [[a]] := by
        cases hgives with
        | cons _ hrest =>
          cases hrest
          rw [List.mem_singleton.mp harguments]
      rw [hfound] at hperm
      exact ⟨a, List.perm_singleton.mp hperm, hkeys⟩
  · constructor
    · intro hkeys body hbody
      obtain ⟨required, description, hroot⟩ := root_of_mem_bodies hbody
      obtain ⟨arguments, harguments, hflatten⟩ := hgives.exists_arguments hbody
      rw [hroot] at hflatten
      refine (forall_keys_ne_iff hflatten).mp fun a ha => hkeys a ?_
      exact hperm.mem_iff.mpr (List.mem_flatten_of_mem harguments ha)
    · intro hfields a ha
      obtain ⟨arguments, harguments, ha⟩ := List.mem_flatten.mp (hperm.mem_iff.mp ha)
      obtain ⟨body, hbody, hflatten⟩ := hgives.exists_body harguments
      obtain ⟨required, description, hroot⟩ := root_of_mem_bodies hbody
      rw [hroot] at hflatten
      exact (forall_keys_ne_iff hflatten).mpr (hfields body hbody) a ha

/-- An object with a name is a part with fields, and the tool has an argument for the name. -/
theorem whole_or_fields_iff_named :
    ∃ tool, (Spec.mk .null).tool? (addPetOperation (named [])) = some tool ∧
      tool.bodyArguments = [⟨"body_name", .str, some "None", .body, ["name"], ""⟩] ∧
      ((∃ a, tool.bodyArguments = [a] ∧ a.keys = []) ∨ ∀ a ∈ tool.bodyArguments, a.keys ≠ []) := by
  have harguments : ((Spec.mk .null).tool? (addPetOperation (named []))).map Tool.bodyArguments
      = some [⟨"body_name", .str, some "None", .body, ["name"], ""⟩] := by decide +kernel
  obtain ⟨tool, htool, heq⟩ := Option.map_eq_some_iff.mp harguments
  have hbodies : (Spec.mk .null).bodies (addPetOperation (named []))
      = [(named [], .root false "")] := rfl
  have hfields : ∀ body ∈ (Spec.mk .null).bodies (addPetOperation (named [])),
      ∀ part, (Spec.mk .null).Meets body.1 part → HasFields part := by
    intro body hbody part hmet
    rw [hbodies, List.mem_singleton] at hbody
    rw [hbody] at hmet
    cases hmet with
    | here => exact ⟨_, rfl⟩
    | own hcomposed | branch hcomposed => cases hcomposed
  exact ⟨tool, htool, heq, (whole_or_fields_iff htool).mpr (.inr hfields)⟩

/-- A branch that only restricts an object gives an argument for the whole body beside those for the
fields of the other branches. -/
theorem not_whole_or_fields :
    ¬ ∀ (spec : Spec) (op : Operation) (tool : Tool), spec.tool? op = some tool →
      (∃ a, tool.bodyArguments = [a] ∧ a.keys = []) ∨ ∀ a ∈ tool.bodyArguments, a.keys ≠ [] := by
  intro h
  let schema : Document :=
    .object [("allOf", .list [named [("required", .list [.text "name"])],
      .object [("minProperties", .number (.int 1))]])]
  have harguments : ((Spec.mk .null).tool? (addPetOperation schema)).map Tool.bodyArguments
      = some [⟨"body_name", .str, none, .body, ["name"], ""⟩,
          ⟨"body", .str, some "None", .body, [], ""⟩] := by decide +kernel
  obtain ⟨tool, htool, heq⟩ := Option.map_eq_some_iff.mp harguments
  rcases h _ _ tool htool with ⟨a, hone, -⟩ | hfields
  · rw [heq] at hone
    cases hone
  · rw [heq] at hfields
    exact hfields _ (List.mem_cons_of_mem _ (List.mem_singleton_self _)) rfl

end Spec

end ApiTools
