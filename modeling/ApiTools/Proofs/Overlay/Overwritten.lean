import ApiTools.Proofs.Document.Overwriting
import ApiTools.Proofs.Overlay.Removed

/-!
# What an update overwrites

A path does not look into the nodes that it selects, and a node keeps its children's steps when one
child is replaced.  So overwriting a node that lies as deep as the path has segments leaves the
places that the path selects (`JsonPath.find_replaceAt`), and with them the effect of a second
update is known: `OverlayAction.apply_overwrites`.
-/

namespace ApiTools

variable {doc node child value : Document} {step : Step} {steps : List Step} {path : JsonPath}

/-! ### Selecting after a child was replaced -/

theorem Document.children_withChild (hkeys : doc.HasDistinctKeys)
    (h : doc.child? step = some child) (value : Document) :
    (doc.withChild step value).children
      = doc.children.map fun entry => if entry.1 = step then (step, value) else entry := by
  rcases child?_cases h with ⟨members, name, rfl, rfl, hget⟩ | ⟨items, position, rfl, rfl, hget⟩
  · show (Members.set members name value).map _ = (members.map _).map _
    rw [Members.set_eq_map (hasDistinctKeys_object.mp hkeys).1 (Members.mem_keys_of_get? hget),
      List.map_map, List.map_map]
    refine List.map_congr_left fun entry _ => ?_
    by_cases hentry : entry.1 = name <;> simp [hentry]
  · obtain ⟨hlt, -⟩ := List.getElem?_eq_some_iff.mp hget
    show (items.set position value).zipIdx.map _ = (items.zipIdx.map _).map _
    refine List.ext_getElem? fun i => ?_
    by_cases hi : i = position
    · subst hi
      simp [hlt]
    · cases hitem : items[i]? <;> simp [hi, hitem, List.getElem?_set_ne (Ne.symm hi)]

namespace Segment

theorem chosen_withChild (segment : Segment) (hkeys : doc.HasDistinctKeys)
    (h : doc.child? step = some child) (value : Document) :
    segment.chosen (doc.withChild step value)
      = (segment.chosen doc).map fun entry => if entry.1 = step then (step, value) else entry := by
  have hfilter : ∀ p : Step → Bool,
      ((doc.withChild step value).children.filter fun entry => p entry.1)
        = (doc.children.filter fun entry => p entry.1).map fun entry =>
            if entry.1 = step then (step, value) else entry := by
    intro p
    rw [Document.children_withChild hkeys h, List.filter_map]
    congr 1
    refine List.filter_congr fun entry _ => ?_
    by_cases hstep : entry.1 = step <;> simp [hstep]
  cases segment with
  | keys names =>
    rw [chosen, chosen, List.map_flatMap]
    exact List.flatMap_congr fun name _ => hfilter fun other => other = .key name
  | _ => exact hfilter _

end Segment

namespace JsonPath

theorem map_visit_replaceAt {segments : List Segment} (hkeys : doc.HasDistinctKeys)
    (hnode : doc.node? steps = some node) (hlength : steps.length = segments.length)
    (value : Document) :
    (visit segments (doc.replaceAt steps value)).map (·.1) = (visit segments doc).map (·.1) := by
  induction segments generalizing doc steps with
  | nil => rfl
  | cons segment rest ih =>
    cases steps with
    | nil => cases hlength
    | cons step more =>
      obtain ⟨child, hchild, hrest⟩ := Document.node?_cons_eq_some hnode
      rw [Document.replaceAt_cons hchild, visit, visit, segment.chosen_withChild hkeys hchild,
        List.flatMap_map, List.map_flatMap, List.map_flatMap]
      refine List.flatMap_congr fun entry hentry => ?_
      by_cases hstep : entry.1 = step
      · -- Below the child that was replaced, what was selected before is selected again.
        obtain ⟨other, old⟩ := entry
        obtain rfl : other = step := hstep
        obtain rfl : child = old :=
          Option.some.inj (hchild.symm.trans (Segment.child?_of_mem_chosen hkeys hentry))
        have hbelow := ih (hkeys.of_child hchild) hrest (Nat.succ.inj hlength)
        have hplaces := congrArg (List.map (other :: ·)) hbelow
        rw [List.map_map, List.map_map] at hplaces
        rw [if_pos rfl, List.map_map, List.map_map]
        exact hplaces
      · rw [if_neg hstep]

/-- The places that a path selects stay when one of them, or another that lies equally deep, is
overwritten. -/
theorem find_replaceAt (hkeys : doc.HasDistinctKeys) (hvalue : value.HasDistinctKeys)
    (hnode : doc.node? steps = some node) (hlength : steps.length = path.segments.length) :
    path.find (doc.replaceAt steps value) = path.find doc := by
  rw [find_eq_map_visit path hkeys, find_eq_map_visit path (hkeys.replaceAt hvalue hnode),
    map_visit_replaceAt hkeys hnode hlength]

/-- The places stay when nodes at their depth are overwritten one after another. -/
theorem find_foldl_replaceAt {places : List (List Step)} (hkeys : doc.HasDistinctKeys)
    (hvalue : value.HasDistinctKeys)
    (h : ∀ p ∈ places, p.length = path.segments.length ∧ (doc.node? p).isSome) :
    path.find (places.foldl (fun doc steps => doc.replaceAt steps value) doc) = path.find doc := by
  induction places generalizing doc with
  | nil => rfl
  | cons first rest ih =>
    obtain ⟨⟨hlength, hthere⟩, hrest⟩ := List.forall_mem_cons.mp h
    obtain ⟨node, hnode⟩ := Option.isSome_iff_exists.mp hthere
    have hstill : ∀ p ∈ rest, p.length = path.segments.length ∧
        ((doc.replaceAt first value).node? p).isSome := by
      intro p hp
      rw [Document.isSome_node?_replaceAt hnode (hlength.trans (hrest p hp).1.symm)]
      exact hrest p hp
    rw [List.foldl_cons, ih (hkeys.replaceAt hvalue hnode) hstill,
      find_replaceAt hkeys hvalue hnode hlength]

/-- An update of what a path selects overwrites one place after another. -/
theorem update_of_find_ne_nil (h : path.find doc ≠ []) (value : Document) :
    path.update doc value
      = ((path.find doc).foldl (fun doc steps => doc.replaceAt steps value) doc,
        .ok .applied) := by
  unfold update
  split
  · rename_i hnil
    exact absurd hnil h
  · rfl

end JsonPath

/-! ### Updates -/

open Document

namespace OverlayAction

variable {action : OverlayAction}

theorem apply_of_update (hread : JsonPath.read action.target = .ok path)
    (hupdate : action.update? = some value) (doc : Document) :
    action.apply doc = path.update doc value := by
  have htarget : JsonPath.readTarget action.target = .ok path := by
    rw [JsonPath.readTarget, hread]
    rfl
  rw [apply, Text.isBlankText_of_read hread, htarget, hupdate]
  rfl

/-- An update of what its path selects is applied and overwrites the selected nodes and nothing
else: the path selects the same places afterwards, the value is read at each of them, other nodes
keep their outlines, and also their values where no selected node lies below them.  Repeated, it
changes nothing. -/
theorem apply_overwrites (hread : JsonPath.read action.target = .ok path)
    (hupdate : action.update? = some value) (hfound : path.find doc ≠ [])
    (hkeys : doc.HasDistinctKeys) (hvalue : value.HasDistinctKeys) :
    let after := (action.apply doc).1
    (action.apply doc).2 = .ok .applied ∧
      path.find after = path.find doc ∧
      (∀ steps ∈ path.find doc, after.getAt? steps = some value) ∧
      (∀ steps, (∀ place ∈ path.find doc, ¬ place <+: steps) →
        (after.node? steps).map outline = (doc.node? steps).map outline) ∧
      (∀ steps, (∀ place ∈ path.find doc, Apart place steps) →
        after.node? steps = doc.node? steps) ∧
      action.apply after = (after, .ok .applied) := by
  have hplaces : ∀ place ∈ path.find doc,
      place.length = path.segments.length ∧ (doc.node? place).isSome :=
    fun place hplace => JsonPath.place_of_mem_find hkeys hplace
  have hover := overwritten_foldl hplaces value
  have hfind := JsonPath.find_foldl_replaceAt hkeys hvalue hplaces
  intro after
  have hafter : after
      = (path.find doc).foldl (fun doc steps => doc.replaceAt steps value) doc := by
    show (action.apply doc).1 = _
    rw [apply_of_update hread hupdate, JsonPath.update_of_find_ne_nil hfound]
  rw [← hafter] at hover hfind
  refine ⟨?_, hfind, ?_, hover.outlined, hover.kept, ?_⟩
  · rw [apply_of_update hread hupdate, JsonPath.update_of_find_ne_nil hfound]
  · exact fun place hplace => getAt?_of_node? (hover.written place hplace)
  · rw [apply_of_update hread hupdate, JsonPath.update_of_find_ne_nil (hfind ▸ hfound), hfind,
      foldl_replaceAt_of_node? hover.written]

/-- A list of keys that names one key twice. -/
theorem apply_overwrites_twice :
    let doc : Document := .object [("a", .object [("x", .ofNat 1), ("y", .ofNat 2)]),
      ("b", .list [.ofNat 3])]
    let path : JsonPath := ⟨[.keys ["a", "a"], .key "x"]⟩
    let action : OverlayAction := ⟨"$['a','a'].x", some (.list []), none⟩
    JsonPath.read action.target = .ok path ∧ path.find doc ≠ [] ∧ doc.HasDistinctKeys ∧
      (Document.list []).HasDistinctKeys ∧
      (action.apply doc).1 = .object [("a", .object [("x", .list []), ("y", .ofNat 2)]),
        ("b", .list [.ofNat 3])] ∧
      path.find (action.apply doc).1 = path.find doc ∧
      (action.apply doc).1.getAt? [.key "a", .key "x"] = some (.list []) ∧
      action.apply (action.apply doc).1 = ((action.apply doc).1, .ok .applied) := by
  intro doc path action
  have hread : JsonPath.read action.target = .ok path := by decide
  have hfound : path.find doc ≠ [] := by decide
  have hkeys : doc.HasDistinctKeys := by decide
  have hvalue : (Document.list []).HasDistinctKeys := by decide
  obtain ⟨-, hsame, hwritten, -, -, hagain⟩ := apply_overwrites hread rfl hfound hkeys hvalue
  refine ⟨hread, hfound, hkeys, hvalue, ?_, hsame, hwritten _ (.head _), hagain⟩
  rw [apply_of_update hread rfl, JsonPath.update_of_find_ne_nil hfound]
  rfl

end OverlayAction

end ApiTools
