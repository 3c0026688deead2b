import ApiTools.Proofs.Normalize.NormalForm

/-!
# What normalization leaves alone

Beside the members of the root that tell the format, only the lists of parameters of operations are
changed: body parameters are dropped from them, and each of the others is left as it is or gets a
schema in exchange for its type (`ParametersFixed`).  `normalize_form_and_frame` states this with
what the result is like.
-/

namespace ApiTools.Normalize

open Document

/-! ### The relation between before and after -/

/-- A parameter is left as it is, or it had no schema, loses its type and gets the schema that its
name suggests. -/
inductive ParameterFixed : Document → Document → Prop where
  | unchanged (parameter : Document) : ParameterFixed parameter parameter
  | schemaAdded {ms : Members} (h : Members.get? ms "schema" = none) :
    ParameterFixed (.object ms)
      (.object (ms.filter (fun entry => entry.1 ≠ "type") ++ [("schema", suggestedSchema ms)]))

/-- Two lists of parameters, where those of the second are those of the first without the body
parameters, in their order and each of them fixed. -/
def ParametersFixed (before after : Document) : Prop :=
  ∃ ps qs, before = .list ps ∧ after = .list qs ∧
    List.Forall₂ ParameterFixed (ps.filter (!isBodyParameter ·)) qs

/-- The same but for the parameters, which are fixed. -/
def OperationFixed : Document → Document → Prop := SameBut (· = "parameters") ParametersFixed

/-- The members of the root that tell the format and the server. -/
def rootKeys : List String := ["openapi", "servers", "swagger", "host", "basePath", "schemes"]

/-- The document without these members at its root. -/
def withoutRootKeys : Document → Document
  | .object ms => .object (ms.filter fun entry => entry.1 ∉ rootKeys)
  | doc => doc

/-! ### Parameters and operations -/

theorem parameterFixed_fixParameter (parameter : Document) :
    ParameterFixed parameter (fixParameter parameter).1 := by
  unfold fixParameter
  split
  · rename_i ms
    split_ifs with hlacks
    · have hschema : Members.get? ms "schema" = none := by
        rw [← Members.has_eq_false_iff]
        simp only [lacksSchema, Bool.and_eq_true, Bool.not_eq_true'] at hlacks
        exact hlacks.1.1.2
      have hfixed : Members.erase (Members.set ms "schema" (suggestedSchema ms)) "type"
          = ms.filter (fun entry => entry.1 ≠ "type") ++ [("schema", suggestedSchema ms)] := by
        rw [Members.set_of_get?_eq_none hschema, Members.erase, List.filter_append]
        rfl
      show ParameterFixed (.object ms) (.object (Members.erase _ "type"))
      rw [hfixed]
      exact .schemaAdded hschema
    · exact .unchanged _
  · exact .unchanged _

theorem parametersFixed_fixParameters (parameters : List Document) :
    ParametersFixed (.list parameters) (.list (fixParameters parameters).1) := by
  refine ⟨parameters, _, rfl, rfl, ?_⟩
  show List.Forall₂ ParameterFixed _
    (((parameters.filter (!isBodyParameter ·)).map fixParameter).map (·.1))
  rw [List.map_map, List.forall₂_map_right_iff]
  exact List.forall₂_same.mpr fun p _ => parameterFixed_fixParameter p

theorem operationFixed_fixOperation (operation : Document) :
    OperationFixed operation (fixOperation operation).1 := by
  rcases getItems?_cases operation "parameters" with h | ⟨ms, parameters, rfl, h⟩
  · rw [fixOperation_eq_self h]
    exact .refl operation
  · rw [fixOperation_object h]
    exact .set rfl h (parametersFixed_fixParameters parameters)

/-! ### Path items -/

/-- One step changes the operation of its method only. -/
theorem sameBut_fixMethod (state : Document × ParameterCounts) (method : Method) :
    SameBut (· = method.name) OperationFixed state.1 (fixMethod state method).1 := by
  obtain ⟨item, counts⟩ := state
  cases h : item.get? method.name with
  | none =>
    rw [fixMethod_none counts h]
    exact .refl item
  | some operation =>
    obtain ⟨ms, rfl, hms, hstep⟩ := fixMethod_some counts h
    rw [hstep]
    exact .set rfl hms (operationFixed_fixOperation operation)

/-- A run over different methods changes their operations only, each of them once. -/
theorem sameBut_foldl_fixMethod (methods : List Method) (nodup : methods.Nodup)
    (state : Document × ParameterCounts) :
    SameBut (fun key => ∃ method ∈ methods, key = method.name) OperationFixed state.1
      (methods.foldl fixMethod state).1 := by
  induction methods generalizing state with
  | nil => exact .refl state.1
  | cons first rest ih =>
    rw [List.nodup_cons] at nodup
    have hdisjoint : ∀ key, key = first.name → ¬ ∃ method ∈ rest, key = method.name := by
      rintro _ rfl ⟨method, hmem, hname⟩
      exact nodup.1 (Method.name_injective hname ▸ hmem)
    have hrun := (sameBut_fixMethod state first).trans_of_disjoint hdisjoint (ih nodup.2 _)
    refine hrun.mono ?_ fun _ _ => id
    rintro key (rfl | ⟨method, hmem, rfl⟩)
    · exact ⟨first, List.mem_cons_self .., rfl⟩
    · exact ⟨method, List.mem_cons_of_mem _ hmem, rfl⟩

theorem sameBut_fixItem (item : Document) :
    SameBut IsMethodKey OperationFixed item (fixItem item).1 :=
  (sameBut_foldl_fixMethod _ Method.all_nodup (item, ⟨0, 0⟩)).mono
    (fun _ ⟨method, _, hname⟩ => ⟨method, hname⟩) fun _ _ => id

theorem itemsDiffer_fixItems (paths : Members) :
    ItemsDiffer OperationFixed (.object paths) (.object (fixItems paths).1) := by
  apply SameBut.object
  unfold Members.Related
  rw [fixItems_fst, List.forall₂_map_right_iff]
  exact List.forall₂_same.mpr fun entry _ => ⟨rfl, .inr ⟨trivial, sameBut_fixItem entry.2⟩⟩

/-! ### The whole description -/

theorem operationsDiffer_normalize (doc : Document) :
    OperationsDiffer OperationFixed (convertSwagger2 doc).1 (normalize doc).1 := by
  rcases getMembers?_cases (convertSwagger2 doc).1 "paths" with h | ⟨ms, paths, hms, h⟩
  · rw [normalize_of_none h]
    exact .refl _
  · rw [normalize_of_paths hms h, hms]
    exact .set rfl h (itemsDiffer_fixItems paths)

/-- Setting one of the members that tell the format is not seen beside them. -/
theorem filter_set_rootKey (ms : Members) {key : String} (hk : key ∈ rootKeys) (value : Document) :
    (Members.set ms key value).filter (fun entry => entry.1 ∉ rootKeys)
      = ms.filter fun entry => entry.1 ∉ rootKeys :=
  Members.filter_set ms (fun key => key ∉ rootKeys) (by simpa using hk) value

/-- A conversion changes members of the root that tell the format and the server only. -/
theorem filter_convertRoot (ms : Members) :
    (convertRoot ms).filter (fun entry => entry.1 ∉ rootKeys)
      = ms.filter fun entry => entry.1 ∉ rootKeys := by
  have hkeys : ∀ key ∈ obsoleteRoot, key ∈ rootKeys := by decide
  have hobsolete : (withoutObsolete ms).filter (fun entry => entry.1 ∉ rootKeys)
      = ms.filter fun entry => entry.1 ∉ rootKeys := by
    unfold withoutObsolete
    rw [Members.foldl_erase, List.filter_filter,
      ← filter_set_rootKey ms (by decide : "openapi" ∈ rootKeys) (.text "3.0.0")]
    congr 1
    funext entry
    by_cases h : entry.1 ∈ rootKeys
    · simp [h]
    · have : entry.1 ∉ obsoleteRoot := fun hmem => h (hkeys _ hmem)
      simp [h, this]
  rcases convertRoot_cases ms with ⟨-, -, -, h⟩ | h
  · rw [h, hobsolete]
  · rw [h, filter_set_rootKey _ (by decide), hobsolete]

/-- A conversion writes the version and a list of servers, and takes out what format 3.0 does not
know. -/
theorem get?_convertRoot_servers (ms : Members) :
    ∃ server servers,
      Members.get? (convertRoot ms) "servers" = some (.list (server :: servers)) := by
  rcases convertRoot_cases ms with ⟨server, servers, hget, h⟩ | h
  · refine ⟨server, servers, ?_⟩
    rw [h, get?_withoutObsolete, if_neg (by decide), if_neg (by decide), hget]
  · rw [h, Members.get?_set_self]
    exact ⟨_, _, rfl⟩

/-! ### Main theorem -/

/-- A parameter in normal form that is no reference is a cookie, or tells its type. -/
theorem IsNormalParameter.cookie_or_typed {ms : Members} (h : IsNormalParameter (.object ms))
    (hnoref : Members.get? ms "$ref" = none) :
    (Document.object ms).getText? "in" = some "cookie" ∨
      (Members.get? ms "schema").isSome ∨ (Members.get? ms "content").isSome := by
  have hlacks := h.hasSchema ms rfl
  unfold lacksSchema Members.has at hlacks
  rw [hnoref] at hlacks
  simp only [Bool.and_eq_false_iff, Bool.not_eq_false', bne_eq_false_iff_eq] at hlacks
  rcases hlacks with ((h | h) | h) | h
  · cases h
  · exact .inr (.inl h)
  · exact .inr (.inr h)
  · exact .inl h

/-- What the result says at its root where the description was of format 2.0. -/
theorem get?_normalize_of_isSwagger2 {doc : Document} (h : Spec.isSwagger2 ⟨doc⟩ = true) :
    (normalize doc).1.get? "openapi" = some (.text "3.0.0") ∧
      (∃ server servers, (normalize doc).1.getItems? "servers" = some (server :: servers)) ∧
      ∀ key ∈ ["swagger", "host", "basePath", "schemes"], (normalize doc).1.get? key = none := by
  obtain ⟨ms, rfl, -, hconvert⟩ := convertSwagger2_of_isSwagger2 h
  have hroot : ∀ key, key ≠ "paths" →
      (normalize (.object ms)).1.get? key = Members.get? (convertRoot ms) key := by
    intro key hk
    rw [get?_normalize _ hk, hconvert]
    rfl
  refine ⟨?_, ?_, ?_⟩
  · rw [hroot _ (by decide), get?_convertRoot ms (by decide), if_neg (by decide), if_pos rfl]
  · obtain ⟨server, servers, hservers⟩ := get?_convertRoot_servers ms
    refine ⟨server, servers, ?_⟩
    unfold Document.getItems?
    rw [hroot _ (by decide), hservers]
    rfl
  · intro key hkey
    have hne : key ≠ "paths" ∧ key ≠ "servers" ∧ key ∈ obsoleteRoot := by
      revert key
      decide
    rw [hroot _ hne.1, get?_convertRoot ms hne.2.1, if_pos hne.2.2]

/-- What comes out is of the form asked for, and beside this form it is what went in. -/
theorem normalize_form_and_frame (doc : Document) :
    (∀ op ∈ Spec.operations ⟨(normalize doc).1⟩, ∀ p ∈ op.parameters,
        p.getText? "in" ≠ some "body") ∧
      (∀ op ∈ Spec.operations ⟨(normalize doc).1⟩, ∀ ms, .object ms ∈ op.parameters →
        Members.get? ms "$ref" = none →
          (Document.object ms).getText? "in" = some "cookie" ∨
            (Members.get? ms "schema").isSome ∨ (Members.get? ms "content").isSome) ∧
      (Spec.isSwagger2 ⟨doc⟩ = true →
        (normalize doc).1.get? "openapi" = some (.text "3.0.0") ∧
          (∃ server servers, (normalize doc).1.getItems? "servers" = some (server :: servers)) ∧
          ∀ key ∈ ["swagger", "host", "basePath", "schemes"], (normalize doc).1.get? key = none) ∧
      (Spec.isSwagger2 ⟨doc⟩ = false → OperationsDiffer OperationFixed doc (normalize doc).1) ∧
      (Spec.isSwagger2 ⟨doc⟩ = true →
        OperationsDiffer OperationFixed (withoutRootKeys doc)
          (withoutRootKeys (normalize doc).1)) := by
  refine ⟨?_, ?_, get?_normalize_of_isSwagger2, ?_, ?_⟩
  · intro op hop p hp
    have hbody := ((isNormal_normalize doc).parameter hop hp).notBody
    simpa [isBodyParameter] using hbody
  · intro op hop ms hp
    exact ((isNormal_normalize doc).parameter hop hp).cookie_or_typed
  · intro h
    have hdiffer := operationsDiffer_normalize doc
    rwa [convertSwagger2_of_not h] at hdiffer
  · intro h
    obtain ⟨ms, rfl, -, hconvert⟩ := convertSwagger2_of_isSwagger2 h
    have hdiffer := operationsDiffer_normalize (.object ms)
    rw [hconvert] at hdiffer
    -- The result of the conversion and that of the normalization are both objects.
    rcases hdiffer with heq | ⟨as, bs, has, hbs, hrel⟩
    · rw [← heq]
      show OperationsDiffer _ _ (.object ((convertRoot ms).filter _))
      rw [filter_convertRoot]
      exact .refl _
    · cases has
      rw [hbs]
      have hfilter := (SameBut.object hrel).filter fun key => key ∉ rootKeys
      rw [filter_convertRoot] at hfilter
      exact hfilter

end ApiTools.Normalize
