import ApiTools.Proofs.Normalize.NormalForm
import ApiTools.Proofs.Spec.Redescribed

/-!
# Normalization of redescribed descriptions

Normalization looks at no text that an overlay sets.  Where two descriptions differ in these texts
only, their normal forms do so too (`pathsRedescribed_normalize`, `get?_normalize_eq`), with one
lemma for each pass.
-/

namespace ApiTools.Normalize

open Document

variable {v w : Document} {ps qs : List Document}

/-! ### Parameters -/

/-- Redescribed parameters are references, have names and have locations alike. -/
theorem get?_of_parameterRedescribed (h : ParameterRedescribed v w) {key : String}
    (hkey : key ∈ ["$ref", "name", "in"]) : v.get? key = w.get? key := by
  cases h with
  | unchanged => rfl
  | described h => exact h key (by rintro rfl; revert hkey; decide)
  | created h => exact (h key hkey).symm

theorem isBodyParameter_eq (h : ParameterRedescribed v w) :
    isBodyParameter v = isBodyParameter w := by
  unfold isBodyParameter
  rw [getText?_congr (get?_of_parameterRedescribed h (by decide))]

theorem parameterRedescribed_fixParameter (h : ParameterRedescribed v w) :
    ParameterRedescribed (fixParameter v).1 (fixParameter w).1 := by
  cases h with
  | unchanged => exact .unchanged _
  | @described ms ns h =>
    have hlacks : lacksSchema ms = lacksSchema ns := by
      unfold lacksSchema Members.has
      rw [h "$ref" (by decide), h "schema" (by decide), h "content" (by decide),
        h "in" (by decide)]
    have hschema : suggestedSchema ms = suggestedSchema ns := by
      unfold suggestedSchema
      rw [h "name" (by decide)]
    unfold fixParameter
    dsimp only
    rw [hlacks]
    split_ifs
    · refine .described fun key hkey => ?_
      rw [get?_fixed, get?_fixed, hschema, h key hkey]
    · exact .described h
  | @created ns h =>
    -- What was null is left alone, and the object in its place is given a schema.
    unfold fixParameter
    dsimp only
    split_ifs
    · refine .created fun key hkey => ?_
      rw [get?_fixed, if_neg (by rintro rfl; revert hkey; decide),
        if_neg (by rintro rfl; revert hkey; decide), h key hkey]
    · exact .created h

theorem forall₂_fixParameters (h : List.Forall₂ ParameterRedescribed ps qs) :
    List.Forall₂ ParameterRedescribed (fixParameters ps).1 (fixParameters qs).1 := by
  have hkept : List.Forall₂ ParameterRedescribed (ps.filter (!isBodyParameter ·))
      (qs.filter (!isBodyParameter ·)) := by
    refine List.rel_filter (fun a b hab => ?_) h
    show (!isBodyParameter a) = true ↔ (!isBodyParameter b) = true
    rw [isBodyParameter_eq hab]
  show List.Forall₂ _ ((List.map fixParameter _).map _) ((List.map fixParameter _).map _)
  rw [List.map_map, List.map_map]
  exact List.rel_map (fun _ _ h => parameterRedescribed_fixParameter h) hkept

/-! ### Operations and path items -/

theorem operationRedescribed_fixOperation (h : OperationRedescribed v w) :
    OperationRedescribed (fixOperation v).1 (fixOperation w).1 := by
  have hparameters : ∀ operation : Document,
      ((fixOperation operation).1.getItems? "parameters").getD []
        = (fixParameters ((operation.getItems? "parameters").getD [])).1 := by
    intro operation
    rw [getItems?_fixOperation]
    cases operation.getItems? "parameters" <;> rfl
  refine ⟨?_, ?_, ?_⟩
  · rw [isObject_fixOperation, isObject_fixOperation, h.isObject]
  · intro key hkey
    have hne : key ≠ "parameters" := by
      rintro rfl
      exact hkey (by decide)
    rw [get?_fixOperation v hne, get?_fixOperation w hne, h.others key hkey]
  · rw [hparameters, hparameters]
    exact forall₂_fixParameters h.parameters

theorem itemRedescribed_fixItem (h : ItemRedescribed v w) :
    ItemRedescribed (fixItem v).1 (fixItem w).1 := by
  refine ⟨fun method => ?_, fun key hkey => ?_⟩
  · have hrel := h.operations method
    rw [get?_fixItem, get?_fixItem]
    generalize v.get? method.name = v?, w.get? method.name = w? at hrel ⊢
    cases hrel with
    | none => exact .none
    | some hsame => exact .some (operationRedescribed_fixOperation hsame)
  · unfold fixItem
    rw [get?_foldl_fixMethod_of_ne _ _ hkey, get?_foldl_fixMethod_of_ne _ _ hkey, h.others key hkey]

/-! ### The whole description -/

theorem pathsRedescribed_normalize (h : OperationsDiffer OperationRedescribed v w) :
    PathsRedescribed (((normalize v).1.getMembers? "paths").getD [])
      (((normalize w).1.getMembers? "paths").getD []) := by
  have hpaths : ∀ doc : Document, ((normalize doc).1.getMembers? "paths").getD []
      = ((doc.getMembers? "paths").getD []).map fun entry => (entry.1, (fixItem entry.2).1) := by
    intro doc
    rw [getMembers?_normalize]
    cases doc.getMembers? "paths" <;> rfl
  rw [hpaths, hpaths]
  refine List.rel_map ?_ (pathsRedescribed_of_operationsDiffer h)
  exact fun _ _ hentry => ⟨hentry.1, itemRedescribed_fixItem hentry.2⟩

/-- Beside the path items and the servers the normal forms have the same members. -/
theorem get?_normalize_eq (h : OperationsDiffer OperationRedescribed v w) {key : String}
    (hpaths : key ≠ "paths") (hservers : key ≠ "servers") :
    (normalize v).1.get? key = (normalize w).1.get? key := by
  have hget : v.get? key = w.get? key := h.get?_eq hpaths
  have hswagger : Spec.isSwagger2 ⟨v⟩ = Spec.isSwagger2 ⟨w⟩ := by
    unfold Spec.isSwagger2
    rw [h.get?_eq (by decide : "swagger" ≠ "paths")]
  rw [get?_normalize _ hpaths, get?_normalize _ hpaths]
  cases hversion : Spec.isSwagger2 ⟨v⟩ with
  | false =>
    rw [convertSwagger2_of_not hversion, convertSwagger2_of_not (hswagger ▸ hversion), hget]
  | true =>
    obtain ⟨ms, rfl, -, hms⟩ := convertSwagger2_of_isSwagger2 hversion
    obtain ⟨ns, rfl, -, hns⟩ := convertSwagger2_of_isSwagger2 (hswagger ▸ hversion)
    rw [hms, hns]
    show Members.get? (convertRoot ms) key = Members.get? (convertRoot ns) key
    change Members.get? ms key = Members.get? ns key at hget
    rw [get?_convertRoot ms hservers, get?_convertRoot ns hservers, hget]

end ApiTools.Normalize
