import ApiTools.Proofs.Spec.Supplied
import ApiTools.Tool.TypeHint
import Mathlib.Data.List.Destutter

/-!
# Type hints of alternatives

The type hint of a schema that is typed by its alternatives depends on the set of those that are not
null alone: on neither their order nor their number (`Spec.typeHint_of_alternatives`).  Merging
equal neighbours and looking whether one is left comes to the same (`TypeHint.common_eq_ofMerged`),
since two or more are left as soon as any two differ.

An alternative stands one level below its schema, so that its type hint is cut off one level earlier
than where it stands alone.
-/

namespace ApiTools

open Document

namespace TypeHint

variable {hints others : List TypeHint} {hint other : TypeHint}

theorem common_of_forall_eq (hne : hints ≠ []) (h : ∀ one ∈ hints, one = hint) :
    common hints = hint := by
  obtain ⟨first, rest, rfl⟩ := List.exists_cons_of_ne_nil hne
  obtain ⟨rfl, hrest⟩ := List.forall_mem_cons.mp h
  have hall : rest.all (· = first) = true := by simpa using hrest
  rw [common, if_pos hall]

theorem common_of_ne (h : hint ∈ hints) (hother : other ∈ hints) (hne : hint ≠ other) :
    common hints = any := by
  cases hints with
  | nil => cases h
  | cons first rest =>
    have hall : ¬ rest.all (· = first) = true := by
      intro hall
      have hsame : ∀ one ∈ first :: rest, one = first := by simpa using hall
      exact hne ((hsame _ h).trans (hsame _ hother).symm)
    rw [common, if_neg hall]

/-- What alternatives have in common depends on the set of their type hints alone. -/
theorem common_congr (h : ∀ one, one ∈ hints ↔ one ∈ others) : common hints = common others := by
  by_cases hnone : hints = []
  · have hnone' : others = [] :=
      List.eq_nil_iff_forall_not_mem.mpr fun one hone => by simpa [hnone] using (h one).mpr hone
    rw [hnone, hnone']
  by_cases hsame : ∀ one ∈ hints, ∀ two ∈ hints, one = two
  · obtain ⟨first, hfirst⟩ := List.exists_mem_of_ne_nil _ hnone
    have hnone' : others ≠ [] := List.ne_nil_of_mem ((h first).mp hfirst)
    rw [common_of_forall_eq hnone fun one hone => hsame one hone first hfirst,
      common_of_forall_eq hnone' fun one hone => hsame one ((h one).mpr hone) first hfirst]
  · push Not at hsame
    obtain ⟨one, hone, two, htwo, hne⟩ := hsame
    rw [common_of_ne hone htwo hne, common_of_ne ((h one).mp hone) ((h two).mp htwo) hne]

/-! ### Equal neighbours merged -/

/-- The type hint that stands for type hints of which no two neighbours are equal. -/
def ofMerged : List TypeHint → TypeHint
  | [] => str
  | [one] => one
  | _ => any

/-- One is left of type hints that are all equal, and more of others. -/
theorem destutter'_cases (first : TypeHint) (rest : List TypeHint) :
    (rest.all (· = first) = true ∧ rest.destutter' (· ≠ ·) first = [first]) ∨
    (rest.all (· = first) = false ∧
      ∃ one two more, rest.destutter' (· ≠ ·) first = one :: two :: more) := by
  induction rest with
  | nil => exact .inl ⟨rfl, rfl⟩
  | cons second rest ih =>
    by_cases heq : first = second
    · subst heq
      rw [List.destutter'_cons_neg _ (by simp), List.all_cons, decide_eq_true rfl, Bool.true_and]
      exact ih
    · right
      obtain ⟨two, more, hmore⟩ :=
        List.exists_cons_of_ne_nil (rest.destutter'_ne_nil (· ≠ ·) (a := second))
      rw [List.destutter'_cons_pos _ heq, hmore]
      exact ⟨by simp [Ne.symm heq], first, two, more, rfl⟩

/-- Merging equal neighbours tells whether all are equal. -/
theorem common_eq_ofMerged (hints : List TypeHint) :
    common hints = ofMerged (hints.destutter (· ≠ ·)) := by
  cases hints with
  | nil => rfl
  | cons first rest =>
    rw [common, List.destutter_cons']
    rcases destutter'_cases first rest with ⟨hall, hone⟩ | ⟨hall, one, two, more, htwo⟩
    · rw [hall, hone, if_pos rfl, ofMerged]
    · rw [hall, htwo, if_neg Bool.false_ne_true]
      rfl

end TypeHint

namespace Spec

variable {spec : Spec} {schema schema' : Document} {branches branches' : List Document}
  {levels : Nat} {members : Members} {key : String}

/-- The type of the schema comes from the given alternatives: nothing that is looked at before them
says what it is. -/
structure IsTypedByAlternatives (spec : Spec) (schema : Document) (branches : List Document) :
    Prop where
  enum : ∀ values ∈ (spec.resolveSchema schema).getItems? "enum", values = []
  type : ∀ t ∈ schemaType? (spec.resolveSchema schema),
    t ∉ ["integer", "number", "boolean", "string", "array", "object"]
  properties : (spec.resolveSchema schema).has "properties" = false
  branches : alternatives? (spec.resolveSchema schema) = some branches

/-- The alternatives that are not null by their own type. -/
def remaining (branches : List Document) : List Document :=
  branches.filter (·.getText? "type" ≠ some "null")

/-- The type hint of an alternative, which stands one level below the schema. -/
def alternativeHint (spec : Spec) (branch : Document) : TypeHint :=
  spec.typeHintWithin maxNesting branch

/-- Does the type hint of the schema come to an end within the given number of levels? -/
def endsWithin (spec : Spec) : (levels : Nat) → Document → Bool
  | 0, _ => false
  | levels + 1, schema =>
    let schema := spec.resolveSchema schema
    (schema.get? "items").all (endsWithin spec levels) &&
      ((alternatives? schema).getD []).all (endsWithin spec levels)

/-- A list of types is never null: the first type that is not null counts. -/
theorem schemaType?_eq_null_iff :
    schemaType? schema = some "null" ↔ schema.getText? "type" = some "null" := by
  unfold schemaType? getText?
  cases schema.get? "type" with
  | none => simp
  | some value =>
    cases value
    case list types =>
      refine iff_of_false (fun h => ?_) (by simp [text?])
      simpa using List.find?_some h
    all_goals simp [text?]

theorem filter_schemaType? (branches : List Document) :
    branches.filter (schemaType? · ≠ some "null") = remaining branches := by
  refine List.filter_congr fun branch _ => ?_
  rw [decide_eq_decide, not_iff_not, schemaType?_eq_null_iff]

theorem typeHintWithin_of_alternatives (h : spec.IsTypedByAlternatives schema branches)
    (levels : Nat) : spec.typeHintWithin (levels + 1) schema
      = TypeHint.common ((remaining branches).map (spec.typeHintWithin levels)) := by
  obtain ⟨henum, htype, hproperties, hbranches⟩ := h
  rw [typeHintWithin]
  generalize spec.resolveSchema schema = resolved at *
  split
  · next value values hvalues => exact absurd (henum _ hvalues) (List.cons_ne_nil _ _)
  · split
    case h_7 =>
      rw [hproperties, hbranches, if_neg Bool.false_ne_true, ← filter_schemaType?]
    all_goals next heq => exact absurd (by decide) (htype _ heq)

theorem typeHint_eq_common (h : spec.IsTypedByAlternatives schema branches) :
    spec.typeHint schema
      = TypeHint.common ((remaining branches).map spec.alternativeHint) :=
  typeHintWithin_of_alternatives h maxNesting

/-- Only the set of the alternatives counts. -/
theorem typeHint_congr_of_alternatives (h : spec.IsTypedByAlternatives schema branches)
    (h' : spec.IsTypedByAlternatives schema' branches')
    (hsame : ∀ branch, branch ∈ branches' ↔ branch ∈ branches) :
    spec.typeHint schema' = spec.typeHint schema := by
  rw [typeHint_eq_common h, typeHint_eq_common h']
  refine TypeHint.common_congr fun hint => ?_
  simp only [List.mem_map, remaining, List.mem_filter, hsame]

/-- More levels make no difference where the type hint comes to an end. -/
theorem typeHintWithin_of_endsWithin (h : spec.endsWithin levels schema = true) :
    spec.typeHintWithin (levels + 1) schema = spec.typeHintWithin levels schema := by
  induction levels generalizing schema with
  | zero => cases h
  | succ levels ih =>
    rw [endsWithin, Bool.and_eq_true, Option.all_eq_true, List.all_eq_true] at h
    obtain ⟨hitems, hbranches⟩ := h
    rw [typeHintWithin, typeHintWithin]
    generalize spec.resolveSchema schema = resolved at *
    have hlist : (resolved.get? "items").map (spec.typeHintWithin (levels + 1))
        = (resolved.get? "items").map (spec.typeHintWithin levels) :=
      Option.map_congr fun items hget => ih (hitems items hget)
    have hcommon : ∀ branches ∈ alternatives? resolved,
        (branches.filter (schemaType? · ≠ some "null")).map (spec.typeHintWithin (levels + 1))
          = (branches.filter (schemaType? · ≠ some "null")).map (spec.typeHintWithin levels) := by
      intro branches hget
      rw [Option.mem_def.mp hget, Option.getD_some] at hbranches
      exact List.map_congr_left fun branch hbranch =>
        ih (hbranches branch (List.mem_of_mem_filter hbranch))
    split
    · rfl
    · split
      case h_5 => rw [hlist]
      case h_7 =>
        split_ifs
        · rfl
        · split
          · rfl
          · next hget => rw [hcommon _ hget]
      all_goals rfl

/-! ### Other branches under the key -/

theorem next?_set (hkey : key ≠ "$ref") (value : Document) :
    spec.next? (.object (Members.set members key value)) = spec.next? (.object members) := by
  have hget : (Document.object (Members.set members key value)).get? "$ref"
      = (Document.object members).get? "$ref" := Members.get?_set_of_ne _ _ hkey
  rw [next?, next?, getText?, getText?, hget]

theorem resolveSchema_of_resolve {node other : Document}
    (h : spec.resolve node = spec.resolve other) :
    spec.resolveSchema node = spec.resolveSchema other := by
  rw [resolveSchema, maxAllOfDepth, resolveSchemaWithin, h]
  rfl

/-- The members beside a reference do not count. -/
theorem typeHint_set_of_next? {target : Document} (hkey : key ≠ "$ref")
    (hnext : spec.next? (.object members) = some target) (value : Document) :
    spec.typeHint (.object (Members.set members key value)) = spec.typeHint (.object members) := by
  have hnext' := (next?_set hkey value).trans hnext
  have hresolve : spec.resolve (.object (Members.set members key value))
      = spec.resolve (.object members) := by
    rw [resolve_of_next? hnext', resolve_of_next? hnext]
  rw [typeHint, typeHintWithin, resolveSchema_of_resolve hresolve]
  rfl

/-- When alternatives are set under a key, these are the alternatives, or those under the other key
still are. -/
theorem alternatives?_set {before after : Document} (hkey : key ∈ ["oneOf", "anyOf"])
    (hset : ∀ k, after.get? k = if key = k then some (.list branches') else before.get? k)
    (h : alternatives? before = some branches) :
    alternatives? after = some branches' ∨ alternatives? after = some branches := by
  unfold alternatives? at h ⊢
  rw [hset, hset]
  simp only [List.mem_cons, List.not_mem_nil, or_false] at hkey
  rcases hkey with rfl | rfl
  · exact .inl rfl
  · cases hone : before.get? "oneOf" with
    | none => exact .inl rfl
    | some first =>
      rw [hone] at h
      exact .inr h

/-- A schema keeps its type hint when its alternatives are written in another order or number. -/
theorem typeHint_set_alternatives (h : spec.IsTypedByAlternatives (.object members) branches)
    (hmembers : (Members.keys members).Nodup) (hkey : key ∈ ["oneOf", "anyOf"])
    (hsame : ∀ branch, branch ∈ branches' ↔ branch ∈ branches) :
    spec.typeHint (.object (Members.set members key (.list branches')))
      = spec.typeHint (.object members) := by
  have hfree : ∀ key ∈ ["oneOf", "anyOf"], key ≠ "$ref" ∧
      key ∉ "$ref" :: Merge.apartKeys ++ Merge.mergedKeys ++ Merge.supplied := by decide
  have hne : ∀ key ∈ ["oneOf", "anyOf"], key ≠ "enum" ∧ key ≠ "type" ∧ key ≠ "properties" := by
    decide
  obtain ⟨href, hfree⟩ := hfree key hkey
  obtain ⟨henum, htype, hproperties⟩ := hne key hkey
  cases hnext : spec.next? (.object members) with
  | some target => exact typeHint_set_of_next? href hnext _
  | none =>
    have hset := get?_resolveSchema_set hmembers hfree hnext (.list branches')
    have hother {k : String} (hne : key ≠ k) :
        (spec.resolveSchema (.object (Members.set members key (.list branches')))).get? k
          = (spec.resolveSchema (.object members)).get? k := by
      rw [hset, if_neg hne]
    have htyped {chosen : List Document}
        (hchosen : alternatives? (spec.resolveSchema
          (.object (Members.set members key (.list branches')))) = some chosen) :
        spec.IsTypedByAlternatives (.object (Members.set members key (.list branches'))) chosen := by
      refine ⟨?_, ?_, ?_, hchosen⟩
      · rw [getItems?, hother henum]
        exact h.enum
      · rw [schemaType?, hother htype]
        exact h.type
      · rw [has, hother hproperties]
        exact h.properties
    rcases alternatives?_set hkey hset h.branches with hchosen | hchosen
    · exact typeHint_congr_of_alternatives h (htyped hchosen) hsame
    · exact typeHint_congr_of_alternatives h (htyped hchosen) fun _ => Iff.rfl

/-! ### The type hint -/

/-- The type hint of a schema that is typed by its alternatives: a text where all are null, the
common one where those that are not null share one, and anything where two of these differ.  The order
and the number of the alternatives make no difference. -/
theorem typeHint_of_alternatives (spec : Spec) (schema : Document) (branches : List Document)
    (h : spec.IsTypedByAlternatives schema branches) :
    (remaining branches = [] → spec.typeHint schema = .str) ∧
    (∀ hint, remaining branches ≠ [] →
      (∀ branch ∈ remaining branches, spec.alternativeHint branch = hint) →
        spec.typeHint schema = hint) ∧
    (∀ one ∈ remaining branches, ∀ other ∈ remaining branches,
      spec.alternativeHint one ≠ spec.alternativeHint other → spec.typeHint schema = .any) ∧
    (∀ branch ∈ branches, spec.endsWithin maxNesting branch = true →
      spec.alternativeHint branch = spec.typeHint branch) ∧
    spec.typeHint schema = TypeHint.ofMerged
      (((remaining branches).map spec.alternativeHint).destutter (· ≠ ·)) ∧
    (∀ schema' branches', spec.IsTypedByAlternatives schema' branches' →
      (∀ branch, branch ∈ branches' ↔ branch ∈ branches) →
        spec.typeHint schema' = spec.typeHint schema) ∧
    ∀ members key branches', schema = .object members → (Members.keys members).Nodup →
      key ∈ ["oneOf", "anyOf"] → (∀ branch, branch ∈ branches' ↔ branch ∈ branches) →
        spec.typeHint (.object (Members.set members key (.list branches')))
          = spec.typeHint schema := by
  have hcommon := typeHint_eq_common h
  refine ⟨?none, ?same, ?differ, ?below, ?merged, ?set, ?written⟩
  case none =>
    intro hnone
    rw [hcommon, hnone]
    rfl
  case same =>
    intro hint hne hsame
    rw [hcommon]
    exact TypeHint.common_of_forall_eq (by simpa using hne) (List.forall_mem_map.mpr hsame)
  case differ =>
    intro one hone other hother hne
    rw [hcommon]
    exact TypeHint.common_of_ne (List.mem_map_of_mem hone) (List.mem_map_of_mem hother) hne
  case below =>
    intro branch _ hends
    exact (typeHintWithin_of_endsWithin hends).symm
  case merged => rw [hcommon, TypeHint.common_eq_ofMerged]
  case set =>
    intro schema' branches' h' hsame
    exact typeHint_congr_of_alternatives h h' hsame
  case written =>
    rintro members key branches' rfl hmembers hkey hsame
    exact typeHint_set_alternatives h hmembers hkey hsame

/-- A description with a whole number that may be null. -/
def countSpec : Spec := ⟨.object [("components", .object [("schemas", .object [
  ("Count", .object [("anyOf", .list [.object [("type", .text "integer")],
    .object [("type", .text "null")]])])])])]⟩

/-- Whole numbers among nulls and unions in another order and number, a text beside a whole number,
and nothing but null. -/
theorem typeHint_of_alternatives_count :
    let count := Document.object [("$ref", .text "#/components/schemas/Count")]
    let integer := Document.object [("type", .text "integer")]
    let absent := Document.object [("type", .text "null")]
    let text := Document.object [("type", .text "string")]
    let union (branches : List Document) := Document.object [("oneOf", .list branches)]
    countSpec.IsTypedByAlternatives (union [integer, absent, count]) [integer, absent, count] ∧
    countSpec.typeHint (union [integer, absent, count]) = .int ∧
    countSpec.typeHint (union [count, integer, count, absent, absent]) = .int ∧
    countSpec.IsTypedByAlternatives (union [integer, absent, text]) [integer, absent, text] ∧
    countSpec.typeHint (union [integer, absent, text]) = .any ∧
    countSpec.IsTypedByAlternatives (union [absent]) [absent] ∧
    countSpec.typeHint (union [absent]) = .str := by
  intro count integer absent text union
  have hcounts : countSpec.IsTypedByAlternatives (union [integer, absent, count])
      [integer, absent, count] := ⟨by decide, by decide, by decide, rfl⟩
  have htexts : countSpec.IsTypedByAlternatives (union [integer, absent, text])
      [integer, absent, text] := ⟨by decide, by decide, by decide, rfl⟩
  have hnulls : countSpec.IsTypedByAlternatives (union [absent]) [absent] :=
    ⟨by decide, by decide, by decide, rfl⟩
  obtain ⟨_, hsame, _, _, _, _, hwritten⟩ :=
    countSpec.typeHint_of_alternatives (union [integer, absent, count]) _ hcounts
  obtain ⟨_, _, hdiffer, _⟩ :=
    countSpec.typeHint_of_alternatives (union [integer, absent, text]) _ htexts
  have hremaining : remaining [integer, absent, text] = [integer, text] := rfl
  have hint : countSpec.typeHint (union [integer, absent, count]) = .int :=
    hsame .int (by decide) (by decide)
  have horder := hwritten [("oneOf", .list [integer, absent, count])] "oneOf"
    [count, integer, count, absent, absent] rfl (by decide) (by decide) (by grind)
  exact ⟨hcounts, hint, horder.trans hint, htexts,
    hdiffer integer (by simp [hremaining]) text (by simp [hremaining]) (by decide), hnulls,
    (countSpec.typeHint_of_alternatives (union [absent]) [absent] hnulls).1 (by decide)⟩

/-- The schema in lists, the given number of lists deep. -/
def inLists : (lists : Nat) → Document → Document
  | 0, schema => schema
  | lists + 1, schema => .object [("type", .text "array"), ("items", inLists lists schema)]

/-- Alternatives may differ where they stand alone and yet have one type hint as alternatives: the
last level is cut off in both. -/
theorem typeHint_of_lists_ne_any :
    let spec : Spec := ⟨.object []⟩
    let integers := inLists 16 (.object [("type", .text "integer")])
    let texts := inLists 16 (.object [("type", .text "string")])
    let union := Document.object [("oneOf", .list [integers, texts])]
    spec.IsTypedByAlternatives union [integers, texts] ∧
    remaining [integers, texts] = [integers, texts] ∧
    spec.typeHint integers ≠ spec.typeHint texts ∧
    spec.typeHint union ≠ .any ∧
    spec.typeHint union ≠ spec.typeHint integers := by
  intro spec integers texts union
  exact ⟨⟨by decide +kernel, by decide +kernel, by decide +kernel, rfl⟩,
    rfl, by decide +kernel, by decide +kernel, by decide +kernel⟩

end Spec

end ApiTools
