import ApiTools.Normalize
import ApiTools.Proofs.Document.Frame

/-!
# Normalization of operations

What the passes over parameters, operations and path items do, each by three facts: what is in
normal form stays as it is and is not counted (`fixOperation_of_isNormal`), what comes out is in
normal form (`isNormal_fixOperation`), and what is not counted was in normal form
(`isNormal_of_counts_fixOperation`).  A path item is fixed method by method; `fixMethod` is the
step, and `get?_foldl_fixMethod` what a run over different methods does.
-/

namespace ApiTools.Normalize

/-! ### Parameters -/

/-- No body parameter, and not without a schema that it should have. -/
structure IsNormalParameter (parameter : Document) : Prop where
  notBody : isBodyParameter parameter = false
  hasSchema : ∀ ms, parameter = .object ms → lacksSchema ms = false

/-- A parameter with a schema lacks none, whatever else is changed. -/
theorem lacksSchema_eq_false {ms : Members} {schema : Document}
    (h : Members.get? ms "schema" = some schema) : lacksSchema ms = false := by
  unfold lacksSchema
  simp [Members.has, h]

theorem get?_fixed (ms : Members) (key : String) :
    Members.get? (Members.erase (Members.set ms "schema" (suggestedSchema ms)) "type") key
      = if key = "type" then none
        else if key = "schema" then some (suggestedSchema ms) else Members.get? ms key := by
  rw [Members.get?_erase, Members.get?_set]
  by_cases h : key = "schema" <;> simp [h, eq_comm]

/-- Only the members `schema` and `type` of a parameter are changed. -/
theorem get?_fixParameter (parameter : Document) {key : String} (hs : key ≠ "schema")
    (ht : key ≠ "type") : (fixParameter parameter).1.get? key = parameter.get? key := by
  unfold fixParameter
  split
  · rename_i ms
    split_ifs
    · show Members.get? (Members.erase _ "type") key = Members.get? ms key
      rw [get?_fixed, if_neg ht, if_neg hs]
    · rfl
  · rfl

theorem isBodyParameter_fixParameter (parameter : Document) :
    isBodyParameter (fixParameter parameter).1 = isBodyParameter parameter := by
  unfold isBodyParameter Document.getText?
  rw [get?_fixParameter parameter (by decide) (by decide)]

theorem fixParameter_of_isNormal {parameter : Document} (h : IsNormalParameter parameter) :
    fixParameter parameter = (parameter, false) := by
  unfold fixParameter
  split
  · rename_i ms
    rw [h.hasSchema ms rfl]
    rfl
  · rfl

theorem isNormal_fixParameter {parameter : Document} (h : isBodyParameter parameter = false) :
    IsNormalParameter (fixParameter parameter).1 := by
  refine ⟨by rw [isBodyParameter_fixParameter, h], ?_⟩
  intro ns hns
  unfold fixParameter at hns
  split at hns
  · rename_i ms
    split_ifs at hns with hlacks
    · cases hns
      apply lacksSchema_eq_false
      rw [get?_fixed, if_neg (by decide), if_pos rfl]
    · cases hns
      simpa using hlacks
  · rename_i hne
    exact absurd hns (hne ns)

theorem isNormal_of_fixParameter {parameter : Document} (hbody : isBodyParameter parameter = false)
    (h : (fixParameter parameter).2 = false) : IsNormalParameter parameter := by
  refine ⟨hbody, ?_⟩
  rintro ms rfl
  unfold fixParameter at h
  dsimp only at h
  split_ifs at h with hlacks
  simpa using hlacks

/-! ### Lists of parameters -/

theorem fixParameters_of_isNormal {parameters : List Document}
    (h : ∀ p ∈ parameters, IsNormalParameter p) :
    fixParameters parameters = (parameters, ⟨0, 0⟩) := by
  have hkept : parameters.filter (!isBodyParameter ·) = parameters := by
    rw [List.filter_eq_self]
    intro p hp
    rw [(h p hp).notBody]
    rfl
  have hfixed : parameters.map fixParameter = parameters.map (·, false) :=
    List.map_congr_left fun p hp => fixParameter_of_isNormal (h p hp)
  unfold fixParameters
  simp [hkept, hfixed, Function.comp_def]

theorem isNormal_of_mem_fixParameters {parameters : List Document} {q : Document}
    (h : q ∈ (fixParameters parameters).1) : IsNormalParameter q := by
  unfold fixParameters at h
  simp only [List.map_map, List.mem_map, List.mem_filter] at h
  obtain ⟨p, ⟨-, hbody⟩, rfl⟩ := h
  exact isNormal_fixParameter (by simpa using hbody)

theorem isNormal_of_counts_fixParameters {parameters : List Document}
    (h : (fixParameters parameters).2 = ⟨0, 0⟩) : ∀ p ∈ parameters, IsNormalParameter p := by
  unfold fixParameters at h
  simp only [ParameterCounts.mk.injEq] at h
  obtain ⟨hfixed, hdropped⟩ := h
  have hlength := List.length_filter_le (!isBodyParameter ·) parameters
  -- Nothing was dropped, so no parameter is a body parameter.
  have hall : ∀ p ∈ parameters, (!isBodyParameter p) = true :=
    List.length_filter_eq_length_iff.mp (by omega)
  have hkept : parameters.filter (!isBodyParameter ·) = parameters := List.filter_eq_self.mpr hall
  have hbody : ∀ p ∈ parameters, isBodyParameter p = false := by
    intro p hp
    simpa using hall p hp
  intro p hp
  refine isNormal_of_fixParameter (hbody p hp) ?_
  rw [hkept, List.length_eq_zero_iff, List.filter_eq_nil_iff] at hfixed
  simpa using hfixed (fixParameter p) (List.mem_map_of_mem hp)

/-! ### Operations -/

/-- All parameters of the operation are in normal form. -/
def IsNormalOperation (operation : Document) : Prop :=
  ∀ p ∈ (operation.getItems? "parameters").getD [], IsNormalParameter p

/-- An operation without a list of parameters is left as it is. -/
theorem fixOperation_eq_self {operation : Document} (h : operation.getItems? "parameters" = none) :
    fixOperation operation = (operation, ⟨0, 0⟩) := by
  unfold fixOperation
  rw [h]
  cases operation <;> rfl

/-- An operation with a list of parameters has this list fixed. -/
theorem fixOperation_object {ms : Members} {parameters : List Document}
    (h : Members.get? ms "parameters" = some (.list parameters)) :
    fixOperation (.object ms)
      = (.object (Members.set ms "parameters" (.list (fixParameters parameters).1)),
        (fixParameters parameters).2) := by
  unfold fixOperation
  rw [Document.getItems?_object h]

theorem getItems?_fixOperation (operation : Document) :
    (fixOperation operation).1.getItems? "parameters"
      = (operation.getItems? "parameters").map fun parameters => (fixParameters parameters).1 := by
  rcases Document.getItems?_cases operation "parameters" with h | ⟨ms, parameters, rfl, h⟩
  · rw [fixOperation_eq_self h, h]
    rfl
  · rw [fixOperation_object h, Document.getItems?_object h]
    exact Document.getItems?_object (Members.get?_set_self _ _ _)

theorem get?_fixOperation (operation : Document) {key : String} (hk : key ≠ "parameters") :
    (fixOperation operation).1.get? key = operation.get? key := by
  rcases Document.getItems?_cases operation "parameters" with h | ⟨ms, parameters, rfl, h⟩
  · rw [fixOperation_eq_self h]
  · rw [fixOperation_object h]
    exact Members.get?_set_of_ne _ _ (Ne.symm hk)

theorem isObject_fixOperation (operation : Document) :
    (fixOperation operation).1.isObject = operation.isObject := by
  rcases Document.getItems?_cases operation "parameters" with h | ⟨ms, parameters, rfl, h⟩
  · rw [fixOperation_eq_self h]
  · rw [fixOperation_object h]
    rfl

theorem fixOperation_of_isNormal {operation : Document} (h : IsNormalOperation operation) :
    fixOperation operation = (operation, ⟨0, 0⟩) := by
  rcases Document.getItems?_cases operation "parameters" with hnone | ⟨ms, parameters, rfl, hps⟩
  · exact fixOperation_eq_self hnone
  · have hnormal : ∀ p ∈ parameters, IsNormalParameter p := by
      intro p hp
      apply h
      rw [Document.getItems?_object hps]
      exact hp
    rw [fixOperation_object hps, fixParameters_of_isNormal hnormal,
      Members.set_of_get?_eq_some hps]

theorem isNormal_fixOperation (operation : Document) :
    IsNormalOperation (fixOperation operation).1 := by
  unfold IsNormalOperation
  rw [getItems?_fixOperation]
  intro q hq
  cases h : operation.getItems? "parameters" with
  | none => simp [h] at hq
  | some parameters =>
    rw [h] at hq
    exact isNormal_of_mem_fixParameters hq

theorem isNormal_of_counts_fixOperation {operation : Document}
    (h : (fixOperation operation).2 = ⟨0, 0⟩) : IsNormalOperation operation := by
  rcases Document.getItems?_cases operation "parameters" with hnone | ⟨ms, parameters, rfl, hps⟩
  · intro p hp
    simp [hnone] at hp
  · rw [fixOperation_object hps] at h
    intro p hp
    rw [Document.getItems?_object hps] at hp
    exact isNormal_of_counts_fixParameters h p hp

/-! ### Path items -/

/-- One step: the operation of the method is fixed and its changes are counted. -/
theorem fixMethod_some {item operation : Document} {method : Method} (counts : ParameterCounts)
    (h : item.get? method.name = some operation) :
    ∃ ms, item = .object ms ∧ Members.get? ms method.name = some operation ∧
      fixMethod (item, counts) method
        = (.object (Members.set ms method.name (fixOperation operation).1),
          counts.add (fixOperation operation).2) := by
  cases item with
  | object ms =>
    refine ⟨ms, rfl, h, ?_⟩
    unfold fixMethod
    rw [h]
  | _ => cases h

/-- One step for a method that the path item does not have. -/
theorem fixMethod_none {item : Document} {method : Method} (counts : ParameterCounts)
    (h : item.get? method.name = none) : fixMethod (item, counts) method = (item, counts) := by
  unfold fixMethod
  rw [h]
  cases item <;> rfl

/-- What is read at a key after one step. -/
theorem get?_fixMethod (state : Document × ParameterCounts) (method : Method) (key : String) :
    (fixMethod state method).1.get? key
      = if key = method.name then (state.1.get? key).map fun operation => (fixOperation operation).1
        else state.1.get? key := by
  obtain ⟨item, counts⟩ := state
  cases h : item.get? method.name with
  | none =>
    rw [fixMethod_none counts h]
    split_ifs with hk
    · rw [hk, h]
      rfl
    · rfl
  | some operation =>
    obtain ⟨ms, rfl, hms, hstep⟩ := fixMethod_some counts h
    rw [hstep]
    show Members.get? (Members.set ms method.name _) key = _
    split_ifs with hk
    · rw [hk, Members.get?_set_self, h]
      rfl
    · rw [Members.get?_set_of_ne _ _ (Ne.symm hk)]
      rfl

/-- What is read at the key of a method after a run over different methods. -/
theorem get?_foldl_fixMethod (methods : List Method) (nodup : methods.Nodup)
    (state : Document × ParameterCounts) (method : Method) :
    (methods.foldl fixMethod state).1.get? method.name
      = if method ∈ methods then
          (state.1.get? method.name).map fun operation => (fixOperation operation).1
        else state.1.get? method.name := by
  induction methods generalizing state with
  | nil => rfl
  | cons first rest ih =>
    rw [List.nodup_cons] at nodup
    rw [List.foldl_cons, ih nodup.2, get?_fixMethod]
    by_cases h : method = first
    · subst h
      simp [nodup.1]
    · have hname : method.name ≠ first.name := fun heq => h (Method.name_injective heq)
      simp [h, hname]

/-- A key that is no method's is read as before. -/
theorem get?_foldl_fixMethod_of_ne (methods : List Method) (state : Document × ParameterCounts)
    {key : String} (hk : ¬ Document.IsMethodKey key) :
    (methods.foldl fixMethod state).1.get? key = state.1.get? key := by
  induction methods generalizing state with
  | nil => rfl
  | cons first rest ih =>
    rw [List.foldl_cons, ih, get?_fixMethod, if_neg fun heq => hk ⟨first, heq⟩]

/-- The operations of a fixed path item are those of the path item, each of them fixed. -/
theorem get?_fixItem (item : Document) (method : Method) :
    (fixItem item).1.get? method.name
      = (item.get? method.name).map fun operation => (fixOperation operation).1 := by
  unfold fixItem
  rw [get?_foldl_fixMethod _ Method.all_nodup, if_pos (Method.mem_all method)]

/-- All operations of the path item are in normal form. -/
def IsNormalItem (item : Document) : Prop :=
  ∀ (method : Method) (operation : Document), item.get? method.name = some operation →
    IsNormalOperation operation

theorem fixMethod_of_isNormal {item : Document} (h : IsNormalItem item) (counts : ParameterCounts)
    (method : Method) : fixMethod (item, counts) method = (item, counts) := by
  cases hop : item.get? method.name with
  | none => exact fixMethod_none counts hop
  | some operation =>
    obtain ⟨ms, rfl, hms, hstep⟩ := fixMethod_some counts hop
    rw [hstep, fixOperation_of_isNormal (h method operation hop), Members.set_of_get?_eq_some hms]
    rfl

theorem fixItem_of_isNormal {item : Document} (h : IsNormalItem item) :
    fixItem item = (item, ⟨0, 0⟩) := by
  unfold fixItem
  generalize Method.all = methods
  induction methods with
  | nil => rfl
  | cons first rest ih => rw [List.foldl_cons, fixMethod_of_isNormal h, ih]

theorem isNormal_fixItem (item : Document) : IsNormalItem (fixItem item).1 := by
  intro method operation hop
  rw [get?_fixItem, Option.map_eq_some_iff] at hop
  obtain ⟨operation, -, rfl⟩ := hop
  exact isNormal_fixOperation operation

theorem add_eq_zero {a b : ParameterCounts} (h : a.add b = ⟨0, 0⟩) : a = ⟨0, 0⟩ ∧ b = ⟨0, 0⟩ := by
  obtain ⟨fixed, dropped⟩ := a
  obtain ⟨fixed', dropped'⟩ := b
  simp only [ParameterCounts.add, ParameterCounts.mk.injEq] at h ⊢
  omega

/-- A run over different methods that counts nothing met operations in normal form only. -/
theorem isNormal_of_counts_foldl (methods : List Method) (nodup : methods.Nodup)
    (state : Document × ParameterCounts) (h : (methods.foldl fixMethod state).2 = ⟨0, 0⟩) :
    state.2 = ⟨0, 0⟩ ∧ ∀ method ∈ methods, ∀ operation,
      state.1.get? method.name = some operation → IsNormalOperation operation := by
  induction methods generalizing state with
  | nil => exact ⟨h, by simp⟩
  | cons first rest ih =>
    rw [List.nodup_cons] at nodup
    obtain ⟨hcounts, hrest⟩ := ih nodup.2 _ h
    -- The first step does not touch the operations that the rest of the run meets.
    have hunread : ∀ method ∈ rest, (fixMethod state first).1.get? method.name
        = state.1.get? method.name := by
      intro method hm
      rw [get?_fixMethod, if_neg]
      intro heq
      exact nodup.1 (Method.name_injective heq ▸ hm)
    obtain ⟨item, counts⟩ := state
    have hfirst : counts = ⟨0, 0⟩ ∧ ∀ operation, item.get? first.name = some operation →
        IsNormalOperation operation := by
      cases hop : item.get? first.name with
      | none =>
        rw [fixMethod_none counts hop] at hcounts
        exact ⟨hcounts, by simp⟩
      | some operation =>
        obtain ⟨ms, rfl, -, hstep⟩ := fixMethod_some counts hop
        rw [hstep] at hcounts
        obtain ⟨hc, ho⟩ := add_eq_zero hcounts
        refine ⟨hc, ?_⟩
        rintro _ ⟨⟩
        exact isNormal_of_counts_fixOperation ho
    refine ⟨hfirst.1, ?_⟩
    intro method hm operation hop
    rcases List.mem_cons.mp hm with rfl | hm'
    · exact hfirst.2 operation hop
    · exact hrest method hm' operation (by rw [hunread method hm', hop])

theorem isNormal_of_counts_fixItem {item : Document} (h : (fixItem item).2 = ⟨0, 0⟩) :
    IsNormalItem item := by
  intro method operation hop
  exact (isNormal_of_counts_foldl _ Method.all_nodup _ h).2 method (Method.mem_all method)
    operation hop

/-! ### Lists of path items -/

theorem fixItems_fst (paths : Members) :
    (fixItems paths).1 = paths.map fun entry => (entry.1, (fixItem entry.2).1) := by
  induction paths with
  | nil => rfl
  | cons entry rest ih =>
    show (entry.1, (fixItem entry.2).1) :: (fixItems rest).1 = _
    rw [ih]
    rfl

theorem fixItems_of_isNormal {paths : Members} (h : ∀ entry ∈ paths, IsNormalItem entry.2) :
    fixItems paths = (paths, ⟨0, 0⟩) := by
  induction paths with
  | nil => rfl
  | cons entry rest ih =>
    rw [fixItems, fixItem_of_isNormal (h entry (List.mem_cons_self ..)),
      ih fun entry hmem => h entry (List.mem_cons_of_mem _ hmem)]
    rfl

theorem isNormal_of_counts_fixItems {paths : Members} (h : (fixItems paths).2 = ⟨0, 0⟩) :
    ∀ entry ∈ paths, IsNormalItem entry.2 := by
  induction paths with
  | nil => simp
  | cons entry rest ih =>
    rw [fixItems] at h
    obtain ⟨hfirst, hrest⟩ := add_eq_zero h
    intro entry' hmem
    rcases List.mem_cons.mp hmem with rfl | hmem
    · exact isNormal_of_counts_fixItem hfirst
    · exact ih hrest entry' hmem

end ApiTools.Normalize
