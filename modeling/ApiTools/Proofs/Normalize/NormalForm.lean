import ApiTools.Proofs.Normalize.Operations

/-!
# Normal form of API descriptions

`IsNormal` says what normalization is for: the description is not of format 2.0, and every
parameter of an operation is in normal form.  A description in normal form is left as it is
(`normalize_of_isNormal`), every result is in normal form (`isNormal_normalize`), and a run that
reports no change had a description in normal form before it (`isNormal_of_stats`).  The three
together give `normalize_normalize`.
-/

namespace ApiTools.Normalize

/-! ### The root -/

/-- The members of the root that format 3.0 knows, with its version. -/
def withoutObsolete (ms : Members) : Members :=
  obsoleteRoot.foldl Members.erase (Members.set ms "openapi" (.text "3.0.0"))

/-- The list of servers that a conversion writes where there is none. -/
def suggestedServers (ms : Members) : Document :=
  .list [.object [("url", .text (serverUrl ms))]]

theorem get?_withoutObsolete (ms : Members) (key : String) :
    Members.get? (withoutObsolete ms) key
      = if key ∈ obsoleteRoot then none
        else if key = "openapi" then some (.text "3.0.0") else Members.get? ms key := by
  unfold withoutObsolete
  rw [Members.get?_foldl_erase, Members.get?_set]
  by_cases h : key = "openapi" <;> simp [h, eq_comm]

theorem convertRoot_eq (ms : Members) :
    convertRoot ms
      = if !(((Members.get? (withoutObsolete ms) "servers").bind Document.items?).getD []).isEmpty
        then withoutObsolete ms
        else Members.set (withoutObsolete ms) "servers" (suggestedServers ms) := rfl

/-- A conversion keeps a list of servers that is not empty, and else writes one. -/
theorem convertRoot_cases (ms : Members) :
    (∃ server servers, Members.get? ms "servers" = some (.list (server :: servers)) ∧
      convertRoot ms = withoutObsolete ms) ∨
    convertRoot ms = Members.set (withoutObsolete ms) "servers" (suggestedServers ms) := by
  have hservers : Members.get? (withoutObsolete ms) "servers" = Members.get? ms "servers" := by
    rw [get?_withoutObsolete, if_neg (by decide), if_neg (by decide)]
  rw [convertRoot_eq, hservers]
  split_ifs with h
  · left
    rw [Bool.not_eq_true', List.isEmpty_eq_false_iff] at h
    cases hget : Members.get? ms "servers" with
    | none => simp [hget] at h
    | some value =>
      rw [hget] at h
      cases value with
      | list items =>
        cases items with
        | nil => exact absurd rfl h
        | cons server servers => exact ⟨server, servers, rfl, rfl⟩
      | _ => exact absurd rfl h
  · exact .inr rfl

theorem get?_convertRoot (ms : Members) {key : String} (hk : key ≠ "servers") :
    Members.get? (convertRoot ms) key
      = if key ∈ obsoleteRoot then none
        else if key = "openapi" then some (.text "3.0.0") else Members.get? ms key := by
  rcases convertRoot_cases ms with ⟨-, -, -, h⟩ | h
  · rw [h, get?_withoutObsolete]
  · rw [h, Members.get?_set_of_ne _ _ (Ne.symm hk), get?_withoutObsolete]

theorem convertSwagger2_of_not {doc : Document} (h : Spec.isSwagger2 ⟨doc⟩ = false) :
    convertSwagger2 doc = (doc, false) := by
  unfold convertSwagger2
  split
  · rw [h]
    rfl
  · rfl

/-- A description of format 2.0 is an object, which has the member `swagger`. -/
theorem convertSwagger2_of_isSwagger2 {doc : Document} (h : Spec.isSwagger2 ⟨doc⟩ = true) :
    ∃ ms, doc = .object ms ∧ (Members.get? ms "swagger").isSome ∧
      convertSwagger2 doc = (.object (convertRoot ms), true) := by
  cases doc with
  | object ms =>
    refine ⟨ms, rfl, ?_, ?_⟩
    · change ((Members.get? ms "swagger").map Spec.isVersionTwo).getD false = true at h
      cases hget : Members.get? ms "swagger" with
      | none => simp [hget] at h
      | some _ => rfl
    · exact if_pos h
  | _ => cases h

theorem isSwagger2_convertRoot (ms : Members) :
    Spec.isSwagger2 ⟨.object (convertRoot ms)⟩ = false := by
  show ((Members.get? (convertRoot ms) "swagger").map Spec.isVersionTwo).getD false = false
  rw [get?_convertRoot ms (by decide), if_pos (by decide)]
  rfl

/-- After the conversion no description is of format 2.0. -/
theorem isSwagger2_convertSwagger2 (doc : Document) :
    Spec.isSwagger2 ⟨(convertSwagger2 doc).1⟩ = false := by
  cases h : Spec.isSwagger2 ⟨doc⟩ with
  | false => rw [convertSwagger2_of_not h, h]
  | true =>
    obtain ⟨ms, rfl, -, hconvert⟩ := convertSwagger2_of_isSwagger2 h
    rw [hconvert]
    exact isSwagger2_convertRoot ms

/-! ### The whole description -/

/-- A description without path items is converted at most. -/
theorem normalize_of_none {doc : Document}
    (h : (convertSwagger2 doc).1.getMembers? "paths" = none) :
    normalize doc = ((convertSwagger2 doc).1, ⟨(convertSwagger2 doc).2, 0, 0⟩) := by
  unfold normalize
  simp only [h]
  split
  · rename_i heq
    cases heq
  · rfl

/-- The path items of a description are fixed where they stand. -/
theorem normalize_of_paths {doc : Document} {ms paths : Members}
    (hconvert : (convertSwagger2 doc).1 = .object ms)
    (h : Members.get? ms "paths" = some (.object paths)) :
    normalize doc = (.object (Members.set ms "paths" (.object (fixItems paths).1)),
      ⟨(convertSwagger2 doc).2, (fixItems paths).2.fixed, (fixItems paths).2.dropped⟩) := by
  unfold normalize
  simp only [hconvert, Document.getMembers?_object h]

/-- The conversion does not touch the path items. -/
theorem get?_paths_convertSwagger2 (doc : Document) :
    (convertSwagger2 doc).1.get? "paths" = doc.get? "paths" := by
  cases h : Spec.isSwagger2 ⟨doc⟩ with
  | false => rw [convertSwagger2_of_not h]
  | true =>
    obtain ⟨ms, rfl, -, hconvert⟩ := convertSwagger2_of_isSwagger2 h
    rw [hconvert]
    show Members.get? (convertRoot ms) "paths" = Members.get? ms "paths"
    rw [get?_convertRoot ms (by decide), if_neg (by decide), if_neg (by decide)]

/-- The path items of the result are those of the description, each of them fixed. -/
theorem getMembers?_normalize (doc : Document) :
    (normalize doc).1.getMembers? "paths"
      = (doc.getMembers? "paths").map fun paths =>
          paths.map fun entry => (entry.1, (fixItem entry.2).1) := by
  have hpaths : (convertSwagger2 doc).1.getMembers? "paths" = doc.getMembers? "paths" :=
    Document.getMembers?_congr (get?_paths_convertSwagger2 doc)
  rcases Document.getMembers?_cases (convertSwagger2 doc).1 "paths" with h | ⟨ms, paths, hms, h⟩
  · rw [normalize_of_none h, ← hpaths, h]
    rfl
  · rw [normalize_of_paths hms h, ← hpaths, hms, Document.getMembers?_object h,
      Option.map_some, ← fixItems_fst]
    exact Document.getMembers?_object (Members.get?_set_self _ _ _)

/-- Beside the path items the result is what the conversion makes of the description. -/
theorem get?_normalize (doc : Document) {key : String} (hk : key ≠ "paths") :
    (normalize doc).1.get? key = (convertSwagger2 doc).1.get? key := by
  rcases Document.getMembers?_cases (convertSwagger2 doc).1 "paths" with h | ⟨ms, paths, hms, h⟩
  · rw [normalize_of_none h]
  · rw [normalize_of_paths hms h, hms]
    exact Members.get?_set_of_ne _ _ (Ne.symm hk)

/-! ### Normal form -/

/-- Not of format 2.0, and with operations in normal form only. -/
structure IsNormal (doc : Document) : Prop where
  notSwagger2 : Spec.isSwagger2 ⟨doc⟩ = false
  items : ∀ entry ∈ (doc.getMembers? "paths").getD [], IsNormalItem entry.2

/-- The parameters of every operation of a description in normal form are in normal form. -/
theorem IsNormal.parameter {doc : Document} (h : IsNormal doc) {op : Operation}
    (hop : op ∈ Spec.operations ⟨doc⟩) {parameter : Document} (hp : parameter ∈ op.parameters) :
    IsNormalParameter parameter := by
  unfold Spec.operations Spec.operationsOf at hop
  simp only [List.mem_flatMap, List.mem_filterMap] at hop
  obtain ⟨⟨path, item⟩, hitem, method, -, hop⟩ := hop
  cases hnode : item.get? method.name with
  | none => simp [hnode] at hop
  | some node =>
    simp only [hnode, Option.ite_none_right_eq_some, Option.some.injEq] at hop
    obtain ⟨-, rfl⟩ := hop
    exact h.items (path, item) hitem method node hnode parameter hp

theorem normalize_of_isNormal {doc : Document} (h : IsNormal doc) :
    normalize doc = (doc, ⟨false, 0, 0⟩) := by
  have hconvert := convertSwagger2_of_not h.notSwagger2
  rcases Document.getMembers?_cases doc "paths" with hnone | ⟨ms, paths, rfl, hpaths⟩
  · rw [normalize_of_none (by rw [hconvert]; exact hnone), hconvert]
  · have hitems : ∀ entry ∈ paths, IsNormalItem entry.2 := by
      intro entry hentry
      apply h.items
      rw [Document.getMembers?_object hpaths]
      exact hentry
    rw [normalize_of_paths (by rw [hconvert]) hpaths, fixItems_of_isNormal hitems,
      Members.set_of_get?_eq_some hpaths, hconvert]

theorem isNormal_normalize (doc : Document) : IsNormal (normalize doc).1 := by
  refine ⟨?_, ?_⟩
  · have h := isSwagger2_convertSwagger2 doc
    unfold Spec.isSwagger2 at h ⊢
    rw [get?_normalize doc (by decide)]
    exact h
  · rw [getMembers?_normalize]
    intro entry hentry
    cases hpaths : doc.getMembers? "paths" with
    | none => simp [hpaths] at hentry
    | some paths =>
      rw [hpaths] at hentry
      obtain ⟨before, -, rfl⟩ := List.mem_map.mp hentry
      exact isNormal_fixItem before.2

theorem isNormal_of_stats {doc : Document} (h : (normalize doc).2 = ⟨false, 0, 0⟩) :
    IsNormal doc := by
  have hswagger : Spec.isSwagger2 ⟨doc⟩ = false := by
    cases hs : Spec.isSwagger2 ⟨doc⟩ with
    | false => rfl
    | true =>
      -- A conversion is reported in both cases.
      obtain ⟨ms, -, -, hconvert⟩ := convertSwagger2_of_isSwagger2 hs
      rcases Document.getMembers?_cases (convertSwagger2 doc).1 "paths" with
        hnone | ⟨_, _, hobject, hpaths⟩
      · rw [normalize_of_none hnone, hconvert] at h
        cases h
      · rw [normalize_of_paths hobject hpaths, hconvert] at h
        cases h
  refine ⟨hswagger, ?_⟩
  have hconvert := convertSwagger2_of_not hswagger
  rcases Document.getMembers?_cases doc "paths" with hnone | ⟨ms, paths, rfl, hpaths⟩
  · simp [hnone]
  · rw [normalize_of_paths (by rw [hconvert]) hpaths] at h
    simp only [NormalizationStats.mk.injEq] at h
    rw [Document.getMembers?_object hpaths]
    apply isNormal_of_counts_fixItems
    show (⟨(fixItems paths).2.fixed, (fixItems paths).2.dropped⟩ : ParameterCounts) = ⟨0, 0⟩
    rw [h.2.1, h.2.2]

/-- Normalizing twice is normalizing once, and a run reports no change exactly where it makes
none. -/
theorem normalize_normalize (doc : Document) :
    normalize (normalize doc).1 = ((normalize doc).1, ⟨false, 0, 0⟩) ∧
      ((normalize doc).2 = ⟨false, 0, 0⟩ ↔ (normalize doc).1 = doc) := by
  refine ⟨normalize_of_isNormal (isNormal_normalize doc), ?_, ?_⟩
  · intro hstats
    rw [normalize_of_isNormal (isNormal_of_stats hstats)]
  · intro hsame
    have hnormal : IsNormal doc := hsame ▸ isNormal_normalize doc
    rw [normalize_of_isNormal hnormal]

end ApiTools.Normalize
