import ApiTools.Proofs.Document.Parts
import ApiTools.Proofs.Normalize.Frame

/-!
# Normalization keeps references

Normalization writes no reference: what holds of all references of a description holds of all of its
normal form (`refsIn_normalize`).  There is one lemma for each pass.
-/

namespace ApiTools.Normalize

open Document

variable {P : String → Prop} {doc : Document} {ms : Members}

theorem refsIn_fixParameter (h : RefsIn P doc) : RefsIn P (fixParameter doc).1 := by
  unfold fixParameter
  split
  · rename_i ms
    split_ifs
    · have hschema : RefsIn P (suggestedSchema ms) :=
        refsIn_object.mpr fun entry hentry => by
          rw [List.mem_singleton.mp hentry]
          exact .of_ne (by decide) (.text _)
      exact (h.set (.of_ne (by decide) hschema)).subset (List.filter_subset_self _)
    · exact h
  · exact h

theorem refsIn_fixOperation (h : RefsIn P doc) : RefsIn P (fixOperation doc).1 := by
  rcases getItems?_cases doc "parameters" with hnone | ⟨ms, parameters, rfl, hget⟩
  · rw [fixOperation_eq_self hnone]
    exact h
  · rw [fixOperation_object hget]
    refine h.set (.of_ne (by decide) (refsIn_list.mpr fun fixed hfixed => ?_))
    unfold fixParameters at hfixed
    simp only [List.map_map, List.mem_map, List.mem_filter] at hfixed
    obtain ⟨parameter, ⟨hparameter, -⟩, rfl⟩ := hfixed
    exact refsIn_fixParameter (h.item (getItems?_object hget) hparameter)

theorem refsIn_fixMethod {state : Document × ParameterCounts} (h : RefsIn P state.1)
    (method : Method) : RefsIn P (fixMethod state method).1 := by
  obtain ⟨item, counts⟩ := state
  cases hget : item.get? method.name with
  | none =>
    rw [fixMethod_none counts hget]
    exact h
  | some operation =>
    have hoperation := refsIn_fixOperation (h.get? hget)
    obtain ⟨ms, rfl, -, hstep⟩ := fixMethod_some counts hget
    rw [hstep]
    exact h.set (.of_ne (by cases method <;> decide) hoperation)

theorem refsIn_fixItem (h : RefsIn P doc) : RefsIn P (fixItem doc).1 := by
  have hrun : ∀ (methods : List Method) (state : Document × ParameterCounts), RefsIn P state.1 →
      RefsIn P (methods.foldl fixMethod state).1 := by
    intro methods
    induction methods with
    | nil => exact fun _ hstate => hstate
    | cons first rest ih => exact fun state hstate => ih _ (refsIn_fixMethod hstate first)
  exact hrun _ (doc, ⟨0, 0⟩) h

theorem refsIn_fixItems (h : RefsIn P (.object ms)) : RefsIn P (.object (fixItems ms).1) := by
  rw [fixItems_fst]
  refine refsIn_object.mpr fun entry hentry => ?_
  obtain ⟨before, hbefore, rfl⟩ := List.mem_map.mp hentry
  have hrefs := refsIn_object.mp h before hbefore
  refine ⟨refsIn_fixItem hrefs.1, fun reference heq => ?_⟩
  obtain ⟨hkey, htext⟩ := Prod.mk.inj heq
  -- A text where a path item should be is no object, and is left as it is.
  rcases sameBut_fixItem before.2 with hsame | ⟨_, _, -, hobject, -⟩
  · exact hrefs.2 reference (Prod.ext hkey (hsame.trans htext))
  · cases hobject.symm.trans htext

theorem refsIn_convertRoot (h : RefsIn P (.object ms)) : RefsIn P (.object (convertRoot ms)) := by
  have hobsolete : RefsIn P (.object (withoutObsolete ms)) := by
    unfold withoutObsolete
    rw [Members.foldl_erase]
    exact (h.set (.of_ne (by decide) (.text _))).subset (List.filter_subset_self _)
  rcases convertRoot_cases ms with ⟨-, -, -, heq⟩ | heq
  · rw [heq]
    exact hobsolete
  · have hservers : RefsIn P (suggestedServers ms) := by
      refine refsIn_list.mpr fun server hserver => ?_
      rw [List.mem_singleton.mp hserver]
      refine refsIn_object.mpr fun entry hentry => ?_
      rw [List.mem_singleton.mp hentry]
      exact .of_ne (by decide) (.text _)
    rw [heq]
    exact hobsolete.set (.of_ne (by decide) hservers)

theorem refsIn_convertSwagger2 (h : RefsIn P doc) : RefsIn P (convertSwagger2 doc).1 := by
  cases hswagger : Spec.isSwagger2 ⟨doc⟩ with
  | false =>
    rw [convertSwagger2_of_not hswagger]
    exact h
  | true =>
    obtain ⟨ms, rfl, -, hconvert⟩ := convertSwagger2_of_isSwagger2 hswagger
    rw [hconvert]
    exact refsIn_convertRoot h

theorem refsIn_normalize (h : RefsIn P doc) : RefsIn P (normalize doc).1 := by
  have hconverted := refsIn_convertSwagger2 h
  rcases getMembers?_cases (convertSwagger2 doc).1 "paths" with hnone | ⟨ms, paths, hms, hget⟩
  · rw [normalize_of_none hnone]
    exact hconverted
  · rw [hms] at hconverted
    have hpart : .object paths ∈ (Document.object ms).parts := mem_parts_of_get? hget
    have hpaths := hconverted.of_part hpart
    rw [normalize_of_paths hms hget]
    exact hconverted.set (.of_ne (by decide) (refsIn_fixItems hpaths))

end ApiTools.Normalize
