import ApiTools.Proofs.Document.Removal
import ApiTools.Proofs.JsonPath.DepthFirst
import Mathlib.Data.List.TakeWhile

/-!
# What an action removes

The places that a path selects lie equally deep, so no one of them lies in another, and removing
later positions of a list before earlier ones leaves every place where it was until its turn comes
(`JsonPath.remove_eq_without`).  An action that removes its target therefore takes out what its path
selects and nothing else (`OverlayAction.apply_eq_without`).
-/

namespace ApiTools

variable {doc : Document} {path : JsonPath}

theorem Text.isBlankText_of_read {text : String} (h : JsonPath.read text = .ok path) :
    isBlankText text = false := by
  cases hblank : isBlankText text with
  | false => rfl
  | true =>
    -- Nothing is left of a blank text to begin with a dollar sign.
    have hdrop : text.toList.dropWhile isBlank = [] :=
      List.dropWhile_eq_nil_iff.mpr (List.all_eq_true.mp hblank)
    have htrim : trimChars text.toList = [] := by
      rw [trimChars, trimBy, hdrop]
      rfl
    rw [JsonPath.read, htrim] at h
    cases h

/-- What the path selects is removed, and all else stays in its order. -/
theorem JsonPath.remove_eq_without (hroot : path.segments ≠ []) (honce : path.NamesOnce)
    (hkeys : doc.HasDistinctKeys) :
    path.remove doc = doc.without fun steps => decide (steps ∈ path.find doc) := by
  have hsorted : ((path.find doc).mergeSort Step.listLe).Pairwise fun a b => Step.listLe a b :=
    List.pairwise_mergeSort Step.listLe_trans Step.listLe_total _
  have hnodup : ((path.find doc).mergeSort Step.listLe).Nodup :=
    (List.mergeSort_perm _ _).nodup_iff.mpr (nodup_find hkeys honce)
  have hdepth : path.segments.length ≠ 0 := fun h => hroot (List.length_eq_zero_iff.mp h)
  have hplaces : ∀ steps ∈ (path.find doc).mergeSort Step.listLe,
      steps.length = path.segments.length ∧ (doc.node? steps).isSome := by
    intro steps hsteps
    rw [List.mem_mergeSort] at hsteps
    exact place_of_mem_find hkeys hsteps
  rw [remove, List.foldl_reverse,
    Document.removeAll_eq_without hdepth hkeys hplaces hsorted hnodup]
  simp only [List.mem_mergeSort]

/-- An action that removes its target, through a path of at least one segment in which no list of
keys names a key twice, leaves the document without the nodes that the path selects in it. -/
theorem OverlayAction.apply_eq_without {action : OverlayAction}
    (hread : JsonPath.read action.target = .ok path) (hupdate : action.update? = none)
    (hremove : action.remove? = some true) (hroot : path.segments ≠ []) (honce : path.NamesOnce)
    (hkeys : doc.HasDistinctKeys) :
    action.apply doc = (doc.without fun steps => decide (steps ∈ path.find doc), .ok .applied) := by
  have htarget : JsonPath.readTarget action.target = .ok path := by
    rw [JsonPath.readTarget, hread]
    rfl
  rw [apply, Text.isBlankText_of_read hread, htarget, hupdate]
  simp only [hremove, if_true, Bool.false_eq_true, if_false,
    JsonPath.remove_eq_without hroot honce hkeys]

/-- The items of two lists are removed, and those of the third stay. -/
theorem OverlayAction.apply_eq_without_items :
    let doc : Document := .object [("a", .list [.ofNat 1, .ofNat 2]),
      ("b", .list [.ofNat 3, .ofNat 4]), ("c", .list [.ofNat 5, .ofNat 6])]
    let path : JsonPath := ⟨[.keys ["a", "b"], .wildcard]⟩
    JsonPath.read "$['a','b'][*]" = .ok path ∧ path.NamesOnce ∧ doc.HasDistinctKeys ∧
      apply ⟨"$['a','b'][*]", none, some true⟩ doc
        = (.object [("a", .list []), ("b", .list []), ("c", .list [.ofNat 5, .ofNat 6])],
          .ok .applied) := by
  intro doc path
  have hread : JsonPath.read "$['a','b'][*]" = .ok path := by decide
  have honce : path.NamesOnce := by decide
  have hkeys : doc.HasDistinctKeys := by decide
  refine ⟨hread, honce, hkeys, ?_⟩
  rw [apply_eq_without hread rfl rfl (by decide) honce hkeys]
  rfl

end ApiTools
