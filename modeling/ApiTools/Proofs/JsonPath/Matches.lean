import ApiTools.Proofs.Document.Keys
import ApiTools.Proofs.JsonPath.Update

/-!
# The places that a path selects

Each segment takes the search one level down (`FoundAt.expand`), so the places that
`JsonPath.find` gives all lie as deep as the path has segments, there is a node at each, and no
place is given twice where no list of keys in the path names a key twice.
-/

namespace ApiTools

variable {doc node child : Document} {segment : Segment} {step : Step}

namespace Segment

/-- No key is named twice. -/
def NamesOnce : Segment → Prop
  | keys names => names.Nodup
  | _ => True

instance (segment : Segment) : Decidable segment.NamesOnce := by
  unfold NamesOnce
  split <;> infer_instance

/-! ### Children that are selected -/

theorem mem_member? {members : Members} {name : String} {selected : Step × Document}
    (h : member? members name = some selected) :
    selected.1 = .key name ∧ Members.get? members name = some selected.2 := by
  obtain ⟨value, hvalue, rfl⟩ := Option.map_eq_some_iff.mp h
  exact ⟨rfl, hvalue⟩

theorem mem_item? {items : List Document} {position : Nat} {selected : Step × Document}
    (h : item? items position = some selected) :
    selected.1 = .index position ∧ items[position]? = some selected.2 := by
  obtain ⟨item, hitem, rfl⟩ := Option.map_eq_some_iff.mp h
  exact ⟨rfl, hitem⟩

theorem mem_itemsFrom {items : List Document} {position : Nat} {selected : Step × Document}
    (h : selected ∈ itemsFrom position items) :
    ∃ offset, selected.1 = .index (position + offset) ∧ items[offset]? = some selected.2 := by
  induction items generalizing position with
  | nil => cases h
  | cons item rest ih =>
    rcases List.mem_cons.mp h with rfl | hrest
    · exact ⟨0, rfl, rfl⟩
    · obtain ⟨offset, hstep, hitem⟩ := ih hrest
      exact ⟨offset + 1, by rw [hstep, Nat.add_right_comm]; rfl, hitem⟩

/-- A selected child stands at its step. -/
theorem child?_of_mem_select (hkeys : node.HasDistinctKeys)
    (h : (step, child) ∈ segment.select node) : node.child? step = some child := by
  unfold select at h
  split at h
  · obtain ⟨rfl, hget⟩ := mem_member? (Option.mem_toList.mp h)
    exact hget
  · obtain ⟨position, -, hitem⟩ := Option.bind_eq_some_iff.mp (Option.mem_toList.mp h)
    obtain ⟨rfl, hget⟩ := mem_item? hitem
    exact hget
  · obtain ⟨rfl, hget⟩ := mem_item? (Option.mem_toList.mp h)
    exact hget
  · obtain ⟨name, -, hmember⟩ := List.mem_filterMap.mp h
    obtain ⟨rfl, hget⟩ := mem_member? hmember
    exact hget
  · obtain ⟨⟨name, value⟩, hmem, heq⟩ := List.mem_map.mp h
    obtain ⟨rfl, rfl⟩ := Prod.mk.inj heq
    exact Members.get?_of_mem (Document.hasDistinctKeys_object.mp hkeys).1 hmem
  · obtain ⟨offset, hstep, hitem⟩ := mem_itemsFrom h
    obtain rfl : step = .index offset := by simpa using hstep
    exact hitem
  · cases h

theorem nodup_itemsFrom (position : Nat) (items : List Document) :
    ((itemsFrom position items).map (·.1)).Nodup := by
  induction items generalizing position with
  | nil => exact List.nodup_nil
  | cons item rest ih =>
    rw [itemsFrom, List.map_cons, List.nodup_cons]
    refine ⟨fun hmem => ?_, ih (position + 1)⟩
    obtain ⟨selected, hselected, hstep⟩ := List.mem_map.mp hmem
    obtain ⟨offset, hoffset, -⟩ := mem_itemsFrom hselected
    have hposition := Step.index.inj (hoffset.symm.trans hstep)
    omega

theorem nodup_filterMap_member? (members : Members) {names : List String} (h : names.Nodup) :
    ((names.filterMap (member? members)).map (·.1)).Nodup := by
  have hkeys : ∀ name selected, member? members name = some selected → selected.1 = .key name :=
    fun name selected hselected => (mem_member? hselected).1
  induction names with
  | nil => exact List.nodup_nil
  | cons name rest ih =>
    rw [List.nodup_cons] at h
    rw [List.filterMap_cons]
    split
    · exact ih h.2
    · rename_i selected hselected
      rw [List.map_cons, List.nodup_cons]
      refine ⟨fun hmem => ?_, ih h.2⟩
      obtain ⟨other, hother, hstep⟩ := List.mem_map.mp hmem
      obtain ⟨otherName, hmem, hmember⟩ := List.mem_filterMap.mp hother
      rw [hkeys _ _ hselected, hkeys _ _ hmember] at hstep
      exact h.1 (Step.key.inj hstep ▸ hmem)

/-- No child is selected twice. -/
theorem nodup_select (hkeys : node.HasDistinctKeys) (honce : segment.NamesOnce) :
    ((segment.select node).map (·.1)).Nodup := by
  have hoption : ∀ selected? : Option (Step × Document),
      (selected?.toList.map (·.1)).Nodup := fun selected? => by
    cases selected? with
    | none => exact List.nodup_nil
    | some selected => exact List.nodup_singleton _
  unfold select
  split
  · exact hoption _
  · exact hoption _
  · exact hoption _
  · exact nodup_filterMap_member? _ honce
  · rename_i members
    have hdistinct := (Document.hasDistinctKeys_object.mp hkeys).1
    have hsteps : (members.map fun entry => (Step.key entry.1, entry.2)).map (·.1)
        = (Members.keys members).map Step.key := by
      rw [Members.keys, List.map_map, List.map_map]
      rfl
    show ((members.map fun entry => (Step.key entry.1, entry.2)).map (·.1)).Nodup
    rw [hsteps]
    exact hdistinct.map fun _ _ => Step.key.inj
  · exact nodup_itemsFrom _ _
  · exact List.nodup_nil

end Segment

namespace JsonPath

/-- No list of keys in the path names a key twice. -/
def NamesOnce (path : JsonPath) : Prop := ∀ segment ∈ path.segments, segment.NamesOnce

instance (path : JsonPath) : Decidable path.NamesOnce :=
  inferInstanceAs (Decidable (∀ segment ∈ path.segments, _))

/-- Places found at a depth of a document: each leads to the node that was found there, and no place
is found twice. -/
structure FoundAt (doc : Document) (depth : Nat) (found : List (List Step × Document)) : Prop where
  node : ∀ place ∈ found, doc.node? place.1 = some place.2
  length : ∀ place ∈ found, place.1.length = depth
  nodup : (found.map (·.1)).Nodup

namespace FoundAt

variable {depth : Nat} {found : List (List Step × Document)}

theorem root (doc : Document) : FoundAt doc 0 [([], doc)] where
  node := by simp [Document.node?]
  length := by simp
  nodup := by simp

theorem mem_expand {place : List Step × Document} (h : place ∈ JsonPath.expand found segment) :
    ∃ parent ∈ found, ∃ step, (step, place.2) ∈ segment.select parent.2 ∧
      place.1 = parent.1 ++ [step] := by
  obtain ⟨parent, hparent, hplace⟩ := List.mem_flatMap.mp h
  obtain ⟨⟨step, child⟩, hselected, rfl⟩ := List.mem_map.mp hplace
  exact ⟨parent, hparent, step, hselected, rfl⟩

/-- One segment takes the search one level down. -/
theorem expand (h : FoundAt doc depth found) (hkeys : doc.HasDistinctKeys)
    (honce : segment.NamesOnce) : FoundAt doc (depth + 1) (JsonPath.expand found segment) where
  node := by
    intro place hplace
    obtain ⟨parent, hparent, step, hselected, hsteps⟩ := mem_expand hplace
    have hnode := h.node parent hparent
    have hchild := Segment.child?_of_mem_select (hkeys.of_node hnode) hselected
    rw [hsteps, Document.node?_append, hnode, Option.bind_some, Document.node?, hchild]
    rfl
  length := by
    intro place hplace
    obtain ⟨parent, hparent, step, -, hsteps⟩ := mem_expand hplace
    rw [hsteps, List.length_append, h.length parent hparent, List.length_singleton]
  nodup := by
    rw [JsonPath.expand, List.map_flatMap, List.nodup_flatMap]
    constructor
    · intro parent hparent
      have hselect := Segment.nodup_select (hkeys.of_node (h.node parent hparent)) honce
      have hsteps : ((segment.select parent.2).map fun selected =>
          (parent.1 ++ [selected.1], selected.2)).map (·.1)
            = ((segment.select parent.2).map (·.1)).map (parent.1 ++ [·]) := by
        rw [List.map_map, List.map_map]
        rfl
      show (((segment.select parent.2).map fun selected =>
        (parent.1 ++ [selected.1], selected.2)).map (·.1)).Nodup
      rw [hsteps]
      exact hselect.map fun a b hab => by simpa using hab
    · -- Places found from different nodes differ before their last step.
      have hpairs : found.Pairwise fun a b => a.1 ≠ b.1 := List.pairwise_map.mp h.nodup
      refine hpairs.imp fun {a b} hab => ?_
      intro steps hsteps hsteps'
      simp only [List.map_map, List.mem_map, Function.comp_apply] at hsteps hsteps'
      obtain ⟨s, -, rfl⟩ := hsteps
      obtain ⟨t, -, heq⟩ := hsteps'
      exact hab (List.append_inj_left' heq rfl).symm

theorem foldl_expand (h : FoundAt doc depth found) (hkeys : doc.HasDistinctKeys)
    {segments : List Segment} (honce : ∀ segment ∈ segments, segment.NamesOnce) :
    FoundAt doc (depth + segments.length) (segments.foldl JsonPath.expand found) := by
  induction segments generalizing depth found with
  | nil => exact h
  | cons segment rest ih =>
    obtain ⟨hfirst, hrest⟩ := List.forall_mem_cons.mp honce
    rw [List.foldl_cons, List.length_cons, ← Nat.add_assoc, Nat.add_right_comm]
    exact ih (h.expand hkeys hfirst) hrest

end FoundAt

variable {path : JsonPath}

theorem foundAt (hkeys : doc.HasDistinctKeys) (honce : path.NamesOnce) :
    FoundAt doc path.segments.length (path.segments.foldl JsonPath.expand [([], doc)]) := by
  have h := (FoundAt.root doc).foldl_expand hkeys honce
  rwa [Nat.zero_add] at h

theorem nodup_find (hkeys : doc.HasDistinctKeys) (honce : path.NamesOnce) :
    (path.find doc).Nodup := (foundAt hkeys honce).nodup

end JsonPath

end ApiTools
