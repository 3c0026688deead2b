import ApiTools.Proofs.Spec.Operations
import ApiTools.Spec.Read

/-!
# Descriptions that were read

Both readers put an object together from its entries by setting one after another, so that each key
is written once (`Members.nodup_keys_ofEntries`).  Of this only the consequence for paths is drawn:
every description that was read has distinct paths (`Spec.hasDistinctPaths_of_read`).
-/

namespace ApiTools

namespace Members

/-! ### Keys written once -/

theorem keys_set (members : Members) (key : String) (value : Document) :
    keys (set members key value)
      = if key ∈ keys members then keys members else keys members ++ [key] := by
  unfold keys
  induction members with
  | nil => rfl
  | cons entry rest ih =>
    obtain ⟨k, v⟩ := entry
    rw [set]
    by_cases hk : k = key
    · simp [hk]
    · rw [if_neg hk, List.map_cons, ih]
      have hkey : key ≠ k := Ne.symm hk
      by_cases hmem : key ∈ rest.map (·.1)
      · simp [hmem]
      · simp only [List.map_cons, List.mem_cons, hkey, hmem, or_self, if_false, List.cons_append]

theorem nodup_keys_set {members : Members} (h : (keys members).Nodup) (key : String)
    (value : Document) : (keys (set members key value)).Nodup := by
  rw [keys_set]
  split_ifs with hmem
  · exact h
  · refine List.nodup_append.mpr ⟨h, List.nodup_singleton key, ?_⟩
    rintro k hk _ hk' rfl
    exact hmem (List.mem_singleton.mp hk' ▸ hk)

/-- Setting one entry after another writes each key once. -/
theorem nodup_keys_foldl_set (entries : List (String × Document)) {members : Members}
    (h : (keys members).Nodup) :
    (keys (entries.foldl (fun members entry => set members entry.1 entry.2) members)).Nodup := by
  induction entries generalizing members with
  | nil => exact h
  | cons entry rest ih => exact ih (nodup_keys_set h entry.1 entry.2)

theorem nodup_keys_ofEntries (entries : List (String × Document)) :
    (keys (ofEntries entries)).Nodup :=
  nodup_keys_foldl_set entries List.nodup_nil

theorem mem_foldl_set {entries : List (String × Document)} {members : Members}
    {entry : String × Document}
    (h : entry ∈ entries.foldl (fun members entry => set members entry.1 entry.2) members) :
    entry ∈ members ∨ entry ∈ entries := by
  induction entries generalizing members with
  | nil => exact .inl h
  | cons first rest ih =>
    rcases ih h with hset | hrest
    · refine (mem_set hset).imp_right ?_
      rintro rfl
      exact List.mem_cons_self ..
    · exact .inr (List.mem_cons_of_mem _ hrest)

/-- Entries put together to members are members of what was put together. -/
theorem mem_of_mem_ofEntries {entries : List (String × Document)} {entry : String × Document}
    (h : entry ∈ ofEntries entries) : entry ∈ entries :=
  (mem_foldl_set h).resolve_left (by simp)

end Members

namespace Spec

/-! ### Descriptions that were read -/

/-- An object put together from entries writes every path once where the path items among them write
each key once. -/
theorem hasDistinctPaths_ofEntries {entries : List (String × Document)}
    (h : ∀ entry ∈ entries, ∀ members, entry.2 = .object members → (Members.keys members).Nodup) :
    HasDistinctPaths ⟨.object (Members.ofEntries entries)⟩ := by
  unfold HasDistinctPaths paths?
  rcases Document.getMembers?_cases (.object (Members.ofEntries entries)) "paths" with
    hnone | ⟨ms, paths, hobject, hpaths⟩
  · rw [hnone]
    exact List.nodup_nil
  · cases hobject
    rw [Document.getMembers?_object hpaths]
    exact h _ (Members.mem_of_mem_ofEntries (Members.mem_of_get? hpaths)) paths rfl

theorem nodup_keys_of_merged {doc : Document} {members : Members}
    (h : doc.merged = .object members) : (Members.keys members).Nodup := by
  cases doc <;> cases h
  exact Members.nodup_keys_ofEntries _

theorem mem_mergedMembers {members : Members} {entry : String × Document}
    (h : entry ∈ Document.mergedMembers members) : ∃ doc, entry.2 = Document.merged doc := by
  induction members with
  | nil => cases h
  | cons first rest ih =>
    rcases List.mem_cons.mp h with rfl | hrest
    · exact ⟨first.2, rfl⟩
    · exact ih hrest

theorem isObject_ofBinary (x : Binary64) : (Document.ofBinary x).isObject = false := by
  unfold Document.ofBinary
  split <;> rfl

theorem isObject_of_plainValue? {text : String} {doc : Document}
    (h : Yaml.plainValue? text = some doc) : doc.isObject = false := by
  unfold Yaml.plainValue? at h
  split at h <;> cases h <;> first | rfl | exact isObject_ofBinary _

/-- No scalar is read as an object. -/
theorem isObject_of_scalarValue? {style : Yaml.ScalarStyle} {tag? : Option String} {text : String}
    {doc : Document} (h : Yaml.scalarValue? style tag? text = some doc) : doc.isObject = false := by
  unfold Yaml.scalarValue? at h
  split at h
  · split_ifs at h
    · exact isObject_of_plainValue? h
    · cases h
      rfl
  · split_ifs at h
    · obtain ⟨b, -, rfl⟩ := Option.map_eq_some_iff.mp h
      rfl
    · split at h <;> cases h
      rfl
    · obtain ⟨x, -, rfl⟩ := Option.map_eq_some_iff.mp h
      exact isObject_ofBinary x
    · cases h
      rfl
    · cases h
      rfl

theorem nodup_keys_of_toDocument? : (node : Yaml.Node) → {members : Members} →
    node.toDocument? = some (.object members) → (Members.keys members).Nodup
  | .scalar style tag? s, members, h => by
    rw [Yaml.Node.toDocument?] at h
    cases isObject_of_scalarValue? h
  | .list tag? items, members, h => by
    rw [Yaml.Node.toDocument?, Option.ite_none_left_eq_some] at h
    obtain ⟨items, -, hitems⟩ := Option.map_eq_some_iff.mp h.2
    cases hitems
  | .mapping tag? entries, members, h => by
    rw [Yaml.Node.toDocument?, Option.ite_none_left_eq_some] at h
    obtain ⟨entries, -, hentries⟩ := Option.map_eq_some_iff.mp h.2
    cases hentries
    exact Members.nodup_keys_ofEntries _
  | .aliased node _, _, h => nodup_keys_of_toDocument? node (by rwa [Yaml.Node.toDocument?] at h)
  | .endless, _, h => by cases h
  | .nothing, _, h => by cases h

theorem toDocument?_of_mem_entries {entries : List (Yaml.Node × Yaml.Node)} {members : Members}
    (h : Yaml.Node.entriesToMembers? entries = some members) {entry : String × Document}
    (hentry : entry ∈ members) : ∃ node : Yaml.Node, node.toDocument? = some entry.2 := by
  induction entries generalizing members with
  | nil =>
    cases h
    cases hentry
  | cons first rest ih =>
    obtain ⟨key, value⟩ := first
    rw [Yaml.Node.entriesToMembers?] at h
    obtain ⟨key, -, h⟩ := Option.bind_eq_some_iff.mp h
    obtain ⟨doc, hdoc, h⟩ := Option.bind_eq_some_iff.mp h
    obtain ⟨others, hothers, h⟩ := Option.bind_eq_some_iff.mp h
    cases h
    rcases List.mem_cons.mp hentry with rfl | hrest
    · exact ⟨value, hdoc⟩
    · exact ih hothers hrest

theorem hasDistinctPaths_of_toDocument? : (node : Yaml.Node) → {doc : Document} →
    node.toDocument? = some doc → HasDistinctPaths ⟨doc⟩
  | .scalar _ _ _, doc, h => by
    rw [Yaml.Node.toDocument?] at h
    have hobject := isObject_of_scalarValue? h
    cases doc <;> first | exact List.nodup_nil | cases hobject
  | .list _ _, _, h => by
    rw [Yaml.Node.toDocument?, Option.ite_none_left_eq_some] at h
    obtain ⟨items, -, rfl⟩ := Option.map_eq_some_iff.mp h.2
    exact List.nodup_nil
  | .mapping _ _, _, h => by
    rw [Yaml.Node.toDocument?, Option.ite_none_left_eq_some] at h
    obtain ⟨entries, hentries, rfl⟩ := Option.map_eq_some_iff.mp h.2
    apply hasDistinctPaths_ofEntries
    intro entry hmem members hmembers
    obtain ⟨node, hnode⟩ := toDocument?_of_mem_entries hentries hmem
    exact nodup_keys_of_toDocument? node (hmembers ▸ hnode)
  | .aliased node _, _, h =>
    hasDistinctPaths_of_toDocument? node (by rwa [Yaml.Node.toDocument?] at h)
  | .endless, _, h => by cases h
  | .nothing, _, h => by
    cases h
    exact List.nodup_nil

theorem hasDistinctPaths_of_ofJson? {text : String} {doc : Document}
    (h : Document.ofJson? text = some doc) : HasDistinctPaths ⟨doc⟩ := by
  obtain ⟨entries, -, rfl⟩ := Option.map_eq_some_iff.mp h
  cases entries with
  | object members =>
    rw [Document.merged]
    apply hasDistinctPaths_ofEntries
    intro entry hmem members' hmembers
    obtain ⟨doc, hdoc⟩ := mem_mergedMembers hmem
    exact nodup_keys_of_merged (hdoc ▸ hmembers)
  | _ => exact List.nodup_nil

theorem hasDistinctPaths_of_readYaml {text : String} {spec : Spec}
    (h : readYaml text = .ok spec) : spec.HasDistinctPaths := by
  unfold readYaml at h
  split at h
  · cases h
  · rename_i doc hread
    obtain ⟨node, -, hnode⟩ := Option.bind_eq_some_iff.mp hread
    split_ifs at h
    cases h
    exact hasDistinctPaths_of_toDocument? node hnode

/-- A description that was read writes every path once. -/
theorem hasDistinctPaths_of_read {text : String} {spec : Spec} (h : read text = .ok spec) :
    spec.HasDistinctPaths := by
  unfold read at h
  split at h
  · rename_i doc hdoc
    split_ifs at h
    · cases h
      exact hasDistinctPaths_of_ofJson? hdoc
    · exact hasDistinctPaths_of_readYaml h
  · exact hasDistinctPaths_of_readYaml h

end Spec

end ApiTools
