import ApiTools.Proofs.Spec.Merged
import ApiTools.Proofs.Tool.Met

/-!
# Which arguments of a request body must be given

An argument for a property of a request body has no default exactly where the part that declares the
property requires it (`Spec.requestBody_required`).  The schema with its branches merged requires what
any schema visited does (`Spec.mem_requiredNames_resolveSchema`).  So the two agree on a property
where each part that declares it requires it as soon as one of the schemas does, and a name that is
required beside the branches that declare it is optional for the tool
(`Spec.not_requestBody_required`).
-/

namespace ApiTools

open Document

namespace Spec

variable {spec : Spec} {op : Operation} {tool : Tool} {body schema part : Document}
  {place : BodyPlace} {arguments : List Argument} {a : Argument} {steps : Nat} {name : String}

/-! ### Names that a merge requires -/

theorem same_text_iff {doc : Document} {s : String} : doc.same (.text s) = true ↔ doc = .text s := by
  cases doc <;> simp [same]

theorem mem_requiredNames : name ∈ requiredNames schema ↔ .text name ∈ ownRequired schema := by
  unfold requiredNames ownRequired
  rw [List.mem_filterMap]
  constructor
  · rintro ⟨value, hvalue, htext⟩
    cases value <;> cases htext
    exact hvalue
  · exact fun h => ⟨_, h, rfl⟩

/-- A schema with its branches merged requires what one of the schemas visited requires. -/
theorem mem_requiredNames_resolveSchema (hroot : spec.root.HasDistinctKeys)
    (hschema : schema.HasDistinctKeys) : name ∈ requiredNames (spec.resolveSchema schema) ↔
      ∃ visited ∈ spec.visited maxAllOfDepth schema, name ∈ requiredNames visited := by
  obtain ⟨later, hvisited⟩ := spec.visited_eq_cons maxAllOfDepth schema
  have hmerged := (accumulates_required hroot).resolveSchema
    (fun x y z hxy hyz => same_trans x hxy hyz) hroot hschema
  simp only [mem_requiredNames, hmerged, hvisited, List.tail_cons, List.exists_mem_cons_iff,
    ← List.mem_flatMap]
  constructor
  · exact mem_or_mem_of_mem_addNew
  · rintro (hown | hlater)
    · exact mem_addNew_of_mem_known hown
    · -- a name is only the same as itself
      rcases mem_addNew_or_same same (ownRequired (spec.resolve schema)) hlater
        with hmem | ⟨other, hmem, hsame⟩
      · exact hmem
      · rwa [same_text_iff.mp hsame] at hmem

/-! ### Arguments for a property -/

/-- The part has the property as one of its fields. -/
def Declares (part : Document) (name : String) : Prop :=
  ∃ properties, bodyShape part = .fields properties ∧ name ∈ Members.keys properties

/-- The part has the property as one of its fields, and the property is neither an object nor
composed. -/
def DeclaresLeaf (spec : Spec) (part : Document) (name : String) : Prop :=
  ∃ properties property, bodyShape part = .fields properties ∧ (name, property) ∈ properties ∧
    bodyShape (spec.resolve property) = .leaf

theorem keys_property_root (hplace : place.keys = []) (name : String) (required : Bool) :
    (place.property name required).keys = [name] := by
  unfold BodyPlace.property
  rw [hplace]
  rfl

theorem required_property_root (hplace : place.keys = []) (name : String) (required : Bool) :
    (place.property name required).required = required := by
  simp [BodyPlace.property, hplace]

/-- A value has one argument, which stands at its own place. -/
theorem exists_standsAt_of_leaf (hleaf : bodyShape (spec.resolve schema) = .leaf)
    (h : spec.flattenWithin steps schema place = some arguments) :
    ∃ a ∈ arguments, StandsAt place a := by
  cases steps with
  | zero => cases h
  | succ steps =>
    have hnot : bodyShape (spec.resolve schema) ≠ .composed := by
      rw [hleaf]
      exact fun heq => by cases heq
    rw [flattenWithin_of_not_composed hnot, partArguments, hleaf] at h
    cases h
    exact ⟨_, List.mem_singleton_self _, _, _, place.sameSpot_describe _, rfl⟩

/-- An argument for a property must be given where a part that declares the property requires it. -/
theorem declared_of_keys (h : spec.flattenWithin steps schema place = some arguments)
    (hplace : place.keys = []) (ha : a ∈ arguments) (hkeys : a.keys = [name]) :
    ∃ part, spec.Meets schema part ∧ Declares part name ∧
      (a.isRequired = true ↔ name ∈ requiredNames part) := by
  obtain ⟨part, hmet, fewer, inner, found, hspot, hpart, ha⟩ := exists_part_of_mem h ha
  have hinner : inner.keys = [] := hspot.keys.trans hplace
  cases hshape : bodyShape part with
  | composed => exact absurd hshape hmet.not_composed
  | dictionary | leaf =>
    -- the part is a whole, and stands for no property
    simp only [partArguments, hshape, Option.some.injEq] at hpart
    rw [← hpart, List.mem_singleton] at ha
    have hnone : a.keys = [] := by
      rw [ha]
      exact hinner
    rw [hnone] at hkeys
    cases hkeys
  | fields properties =>
    obtain ⟨entry, hentry, more, hgiven, ha⟩ := exists_entry_of_mem hshape hinner hpart ha
    have hproperty := keys_property_root hinner entry.1 ((requiredNames part).contains entry.1)
    rcases spot_of_mem_flattenWithin hgiven ha with hat | hbelow
    · have hname : entry.1 = name := by
        have hat' := keys_of_standsAt hat
        rw [hproperty, hkeys] at hat'
        exact (List.cons.inj hat').1.symm
      refine ⟨part, hmet, ⟨properties, hshape, hname ▸ List.mem_map_of_mem hentry⟩, ?_⟩
      rw [isRequired_of_standsAt hat, required_property_root hinner, hname]
      simp
    · -- below the property the names are longer
      obtain ⟨next, names, hnames⟩ := hbelow.keys
      rw [hproperty, hkeys] at hnames
      simp at hnames

/-- A property of a part that is met, neither an object nor composed, has an argument of its name,
which must be given where the part requires the property. -/
theorem exists_argument_of_declaresLeaf
    (h : spec.flattenWithin steps schema place = some arguments) (hplace : place.keys = [])
    (hbody : place.name = "body") (hmet : spec.Meets schema part)
    (hleaf : spec.DeclaresLeaf part name) :
    ∃ a ∈ arguments, a.name = "body_" ++ Naming.identifier name ∧
      (a.isRequired = true ↔ name ∈ requiredNames part) := by
  obtain ⟨properties, property, hshape, hentry, hproperty⟩ := hleaf
  obtain ⟨fewer, inner, found, hspot, hpart, hall⟩ := exists_signature_of_meets hmet h
  have hinner : inner.keys = [] := hspot.keys.trans hplace
  obtain ⟨more, hgiven, hsubset⟩ := exists_subset_of_entry hshape hinner hpart hentry
  -- the property has one argument, which stands at its own place
  obtain ⟨b, hb, hat⟩ := exists_standsAt_of_leaf hproperty hgiven
  obtain ⟨a, ha, hsame⟩ := hall b (hsubset hb)
  -- an argument that is there has its signature, and so its name and its default
  have hplainA : a.IsPlain := by
    refine isPlain_of_spot ?_ (spot_of_mem_flattenWithin h ha)
    rw [hbody]
    exact BodyPlace.isIdentifierChar_body
  have hname : b.name = "body_" ++ Naming.identifier name := by
    rw [name_of_standsAt hat]
    simp [BodyPlace.property, hinner, hspot.name, hbody]
  have hplainB : b.IsPlain := by
    refine isPlain_of_spot ?_ (.inl hat)
    obtain ⟨rest, hrest, hchars⟩ :=
      inner.name_property name ((requiredNames part).contains name)
    rw [hrest, hspot.name, hbody, List.forall_mem_append, List.forall_mem_cons]
    exact ⟨BodyPlace.isIdentifierChar_body, by decide, hchars⟩
  obtain ⟨hsameName, -, hdefault⟩ := (Argument.signature_eq_iff hplainA hplainB).mp hsame
  refine ⟨a, ha, hsameName.trans hname, ?_⟩
  have hrequired : a.isRequired = b.isRequired := congrArg Option.isNone hdefault
  rw [hrequired, isRequired_of_standsAt hat, required_property_root hinner]
  simp

/-! ### Request bodies -/

/-- The arguments of a request body are among those of the tool. -/
theorem bodyArguments_subset (htool : spec.tool? op = some tool) :
    ∃ arguments, spec.bodyArguments op = some arguments ∧ arguments ⊆ tool.arguments := by
  obtain ⟨parts, arguments, -, hbody, rfl⟩ := exists_of_tool? htool
  refine ⟨arguments, hbody, fun a ha => ?_⟩
  have hmem : a ∈ parts.arguments ++ arguments := List.mem_append_right _ ha
  unfold requiredFirst
  rw [List.mem_append, List.mem_filter, List.mem_filter]
  cases a.isRequired with
  | true => exact .inl ⟨hmem, rfl⟩
  | false => exact .inr ⟨hmem, rfl⟩

/-- An argument for a property of a request body has no default exactly where a part that declares
the property requires it, and each part that declares a property as a value has such an argument.
The merged schema requires what one of the schemas visited requires.  So the arguments for a
property agree with the merged schema where all the parts that declare the property do. -/
theorem requestBody_required (htool : spec.tool? op = some tool)
    (hbody : op.requestBody? = some body) (hschema : bodySchema? (spec.resolve body) = some schema)
    (hroot : spec.root.HasDistinctKeys) (hdistinct : schema.HasDistinctKeys) (name : String) :
    ∃ arguments, spec.bodyArguments op = some arguments ∧ arguments ⊆ tool.arguments ∧
      (∀ a ∈ arguments, a.keys = [name] → ∃ part, spec.Meets schema part ∧ Declares part name ∧
        (a.isRequired = true ↔ name ∈ requiredNames part)) ∧
      (∀ part, spec.Meets schema part → spec.DeclaresLeaf part name →
        ∃ a ∈ arguments, a.name = "body_" ++ Naming.identifier name ∧
          (a.isRequired = true ↔ name ∈ requiredNames part)) ∧
      (name ∈ requiredNames (spec.resolveSchema schema) ↔
        ∃ visited ∈ spec.visited maxAllOfDepth schema, name ∈ requiredNames visited) ∧
      ((∀ part, spec.Meets schema part → Declares part name →
          (name ∈ requiredNames part ↔ name ∈ requiredNames (spec.resolveSchema schema))) →
        ∀ a ∈ arguments, a.keys = [name] →
          (a.isRequired = true ↔ name ∈ requiredNames (spec.resolveSchema schema))) := by
  obtain ⟨arguments, harguments, hsubset⟩ := bodyArguments_subset htool
  have hflatten : spec.flatten schema (.root (isRequiredParameter (spec.resolve body))
      ((spec.resolve body).trimmedText "description")) = some arguments := by
    rw [← harguments]
    unfold bodyArguments
    simp only [hbody, hschema]
  have hdeclared : ∀ a ∈ arguments, a.keys = [name] → ∃ part, spec.Meets schema part ∧
      Declares part name ∧ (a.isRequired = true ↔ name ∈ requiredNames part) :=
    fun a ha hkeys => declared_of_keys hflatten rfl ha hkeys
  refine ⟨arguments, harguments, hsubset, hdeclared, ?_, ?_, ?_⟩
  · intro part hmet hleaf
    exact exists_argument_of_declaresLeaf hflatten rfl rfl hmet hleaf
  · exact mem_requiredNames_resolveSchema hroot hdistinct
  · intro hagree a ha hkeys
    obtain ⟨part, hmet, hdeclares, hrequired⟩ := hdeclared a ha hkeys
    exact hrequired.trans (hagree part hmet hdeclares)

/-- The operation that adds a pet, whose body has the given schema. -/
def addPetOperation (schema : Document) : Operation :=
  ⟨"/pets", .post, .object [("operationId", .text "addPet"), ("requestBody", .object
    [("content", .object [("application/json", .object [("schema", schema)])])])], .null⟩

/-- An object with a name. -/
def named (others : Members) : Document :=
  .object (("properties", .object [("name", .object [("type", .text "string")])]) :: others)

/-- Where the branch that declares the name requires it, the tool does so too. -/
theorem requestBody_required_named :
    let schema : Document :=
      .object [("allOf", .list [named [("required", .list [.text "name"])], .object []])]
    ∃ tool, (Spec.mk .null).tool? (addPetOperation schema) = some tool ∧
      schema.HasDistinctKeys ∧ ∃ a ∈ tool.arguments, a.name = "body_name" ∧ a.isRequired = true := by
  intro schema
  have hdistinct : schema.HasDistinctKeys := by decide
  have hsome : ((Spec.mk .null).tool? (addPetOperation schema)).isSome = true := by decide +kernel
  obtain ⟨tool, htool⟩ := Option.isSome_iff_exists.mp hsome
  obtain ⟨arguments, -, hsubset, -, hexists, -, -⟩ :=
    requestBody_required htool rfl rfl (by decide) hdistinct "name"
  have hshape : bodyShape (named [("required", .list [.text "name"])])
      = .fields [("name", .object [("type", .text "string")])] := rfl
  have hmet : (Spec.mk .null).Meets schema (named [("required", .list [.text "name"])]) :=
    .branch rfl (List.mem_cons_self ..) (.here fun heq => by cases hshape.symm.trans heq)
  have hleaf : (Spec.mk .null).DeclaresLeaf (named [("required", .list [.text "name"])]) "name" :=
    ⟨_, _, hshape, List.mem_singleton_self _, rfl⟩
  obtain ⟨a, ha, hname, hrequired⟩ := hexists _ hmet hleaf
  exact ⟨tool, htool, hdistinct, a, hsubset ha, hname.trans (by decide),
    hrequired.mpr (by decide)⟩

/-- A name that is required beside the branches, one of which declares it, is required by the merged
schema and optional for the tool. -/
theorem not_requestBody_required :
    ¬ ∀ (spec : Spec) (op : Operation) (tool : Tool) (body schema property : Document)
        (name : String),
      spec.tool? op = some tool → op.requestBody? = some body →
      bodySchema? (spec.resolve body) = some schema →
      spec.root.HasDistinctKeys → schema.HasDistinctKeys →
      (∀ visited ∈ spec.visited maxAllOfDepth schema,
        visited.has "oneOf" = false ∧ visited.has "anyOf" = false) →
      (spec.resolveSchema schema).getText? "type" = some "object" →
      Members.get? (ownProperties (spec.resolveSchema schema)) name = some property →
      bodyShape (spec.resolve property) = .leaf →
      ∀ a ∈ tool.arguments, a.location = .body → a.keys = [name] →
        (a.isRequired = true ↔ name ∈ requiredNames (spec.resolveSchema schema)) := by
  intro h
  let schema : Document :=
    .object [("required", .list [.text "name"]), ("allOf", .list [named []])]
  have harguments : ((Spec.mk .null).tool? (addPetOperation schema)).map Tool.arguments
      = some [⟨"body_name", .str, some "None", .body, ["name"], ""⟩] := by decide +kernel
  obtain ⟨tool, htool, heq⟩ := Option.map_eq_some_iff.mp harguments
  have hvisited : ∀ visited ∈ (Spec.mk .null).visited maxAllOfDepth schema,
      visited.has "oneOf" = false ∧ visited.has "anyOf" = false := by decide +kernel
  have hagree := h ⟨.null⟩ (addPetOperation schema) tool _ schema _ "name" htool rfl rfl (by decide)
    (by decide) hvisited rfl rfl rfl _ (heq ▸ List.mem_singleton_self _) rfl rfl
  have hrequired : "name" ∈ requiredNames ((Spec.mk .null).resolveSchema schema) := by
    decide +kernel
  exact absurd (hagree.mpr hrequired) (by decide)

end Spec

end ApiTools
