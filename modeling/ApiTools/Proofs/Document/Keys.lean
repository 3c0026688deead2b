import ApiTools.Proofs.Document.Nodes
import ApiTools.Proofs.Document.Parts
import ApiTools.Proofs.Spec.Read

/-!
# Documents whose objects write each key once

A document `HasDistinctKeys` where no object in it has two members with one key.  Every document
that was read is one: merging repeated keys gives such a document and changes no other
(`hasDistinctKeys_iff_merged`).
-/

namespace ApiTools

namespace Members

/-- Entries with distinct keys are the members that they are put together to. -/
theorem foldl_set_of_nodup {entries members : Members}
    (h : (keys (members ++ entries)).Nodup) :
    entries.foldl (fun members entry => set members entry.1 entry.2) members
      = members ++ entries := by
  induction entries generalizing members with
  | nil => rw [List.foldl_nil, List.append_nil]
  | cons entry rest ih =>
    have hnew : entry.1 ∉ keys members := by
      rw [keys, List.map_append, List.nodup_append] at h
      exact fun hmem => h.2.2 _ hmem _ (List.mem_cons_self ..) rfl
    have hget : get? members entry.1 = none := by
      rw [get?, List.lookup_eq_none_iff]
      rintro ⟨key, value⟩ hmem
      simpa using fun heq : entry.1 = key => hnew (heq ▸ List.mem_map_of_mem hmem)
    rw [List.foldl_cons, set_of_get?_eq_none hget, ih (by simpa using h), List.append_assoc,
      List.singleton_append]

theorem ofEntries_of_nodup {entries : Members} (h : (keys entries).Nodup) :
    ofEntries entries = entries := by
  have hall : (keys ([] ++ entries)).Nodup := h
  exact foldl_set_of_nodup hall

end Members

namespace Document

/-- In every object in the document each key is written once. -/
def HasDistinctKeys (doc : Document) : Prop :=
  ∀ part ∈ doc.parts, (Members.keys (part.members?.getD [])).Nodup

instance (doc : Document) : Decidable doc.HasDistinctKeys :=
  inferInstanceAs (Decidable (∀ part ∈ doc.parts, _))

variable {doc node : Document} {items : List Document} {members : Members}

theorem hasDistinctKeys_of_scalar (h : doc.parts = [doc]) (hobject : doc.members? = none) :
    doc.HasDistinctKeys := by
  intro part hpart
  rw [h, List.mem_singleton] at hpart
  rw [hpart, hobject]
  exact List.nodup_nil

theorem hasDistinctKeys_list :
    (Document.list items).HasDistinctKeys ↔ ∀ item ∈ items, item.HasDistinctKeys :=
  forall_mem_parts_list.trans (and_iff_right List.nodup_nil)

theorem hasDistinctKeys_object :
    (Document.object members).HasDistinctKeys ↔
      (Members.keys members).Nodup ∧ ∀ entry ∈ members, entry.2.HasDistinctKeys :=
  forall_mem_parts_object

theorem HasDistinctKeys.of_child {step : Step} (h : doc.HasDistinctKeys)
    (hchild : doc.child? step = some node) : node.HasDistinctKeys := by
  rcases child?_cases hchild with ⟨members, name, rfl, rfl, hget⟩ | ⟨items, i, rfl, rfl, hget⟩
  · exact (hasDistinctKeys_object.mp h).2 _ (Members.mem_of_get? hget)
  · exact hasDistinctKeys_list.mp h _ (List.mem_of_getElem? hget)

theorem HasDistinctKeys.of_node {steps : List Step} (h : doc.HasDistinctKeys)
    (hnode : doc.node? steps = some node) : node.HasDistinctKeys := by
  induction steps generalizing doc with
  | nil => exact Option.some.inj hnode ▸ h
  | cons step rest ih =>
    obtain ⟨child, hchild, hrest⟩ := node?_cons_eq_some hnode
    exact ih (h.of_child hchild) hrest

/-! ### Merging repeated keys -/

mutual
theorem merged_of_hasDistinctKeys : (doc : Document) → doc.HasDistinctKeys → doc.merged = doc
  | .list items, h =>
    congrArg Document.list (mergedItems_of_hasDistinctKeys items (hasDistinctKeys_list.mp h))
  | .object members, h => by
    have hkeys := hasDistinctKeys_object.mp h
    rw [merged, mergedMembers_of_hasDistinctKeys members hkeys.2,
      Members.ofEntries_of_nodup hkeys.1]
  | .null, _ | .bool _, _ | .number _, _ | .text _, _ => rfl

theorem mergedItems_of_hasDistinctKeys : (items : List Document) →
    (∀ item ∈ items, item.HasDistinctKeys) → mergedItems items = items
  | [], _ => rfl
  | item :: rest, h => by
    rw [mergedItems, merged_of_hasDistinctKeys item (h item (List.mem_cons_self ..)),
      mergedItems_of_hasDistinctKeys rest fun other hother => h other (List.mem_cons_of_mem _ hother)]

theorem mergedMembers_of_hasDistinctKeys : (members : Members) →
    (∀ entry ∈ members, entry.2.HasDistinctKeys) → mergedMembers members = members
  | [], _ => rfl
  | (key, value) :: rest, h => by
    rw [mergedMembers, merged_of_hasDistinctKeys value (h (key, value) (List.mem_cons_self ..)),
      mergedMembers_of_hasDistinctKeys rest fun other hother =>
        h other (List.mem_cons_of_mem _ hother)]
end

mutual
theorem hasDistinctKeys_merged : (doc : Document) → doc.merged.HasDistinctKeys
  | .list items => hasDistinctKeys_list.mpr (hasDistinctKeys_of_mem_mergedItems items)
  | .object members => by
    refine hasDistinctKeys_object.mpr ⟨Members.nodup_keys_ofEntries _, fun entry hentry => ?_⟩
    exact hasDistinctKeys_of_mem_mergedMembers members entry (Members.mem_of_mem_ofEntries hentry)
  | .null | .bool _ | .number _ | .text _ => hasDistinctKeys_of_scalar rfl rfl

theorem hasDistinctKeys_of_mem_mergedItems : (items : List Document) →
    ∀ item ∈ mergedItems items, item.HasDistinctKeys
  | [], _, hitem => by cases hitem
  | first :: rest, item, hitem => by
    rcases List.mem_cons.mp hitem with rfl | hrest
    · exact hasDistinctKeys_merged first
    · exact hasDistinctKeys_of_mem_mergedItems rest item hrest

theorem hasDistinctKeys_of_mem_mergedMembers : (members : Members) →
    ∀ entry ∈ mergedMembers members, entry.2.HasDistinctKeys
  | [], _, hentry => by cases hentry
  | (_, value) :: rest, entry, hentry => by
    rcases List.mem_cons.mp hentry with rfl | hrest
    · exact hasDistinctKeys_merged value
    · exact hasDistinctKeys_of_mem_mergedMembers rest entry hrest
end

/-- Merging repeated keys leaves those documents as they are in which there are none. -/
theorem hasDistinctKeys_iff_merged : doc.HasDistinctKeys ↔ doc.merged = doc :=
  ⟨merged_of_hasDistinctKeys doc, fun h => h ▸ hasDistinctKeys_merged doc⟩

end Document

end ApiTools
