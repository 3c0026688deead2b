import ApiTools.Proofs.Document.FirstWins
import ApiTools.Proofs.Document.Parts
import ApiTools.Spec.Schema

/-!
# Descriptions that agree on references

`Spec.AgreeOn spec other` holds of a reference that leads to the same node in two descriptions, or
to none in both.  Where this is so of all references in one of them, a document whose references are
such is resolved to the same in both (`resolve_eq`, `resolveSchema_eq`), and what it is resolved to
has such references only (`refsIn_resolve`, `refsIn_resolveSchema`).
-/

namespace ApiTools

namespace Members

theorem eraseSwap_subset (members : Members) (key : String) : eraseSwap members key ⊆ members := by
  induction members with
  | nil => exact List.Subset.refl _
  | cons entry rest ih =>
    obtain ⟨k, v⟩ := entry
    rw [eraseSwap]
    split_ifs
    · cases hlast : rest.getLast? with
      | none => exact List.nil_subset _
      | some last =>
        refine List.cons_subset.mpr ⟨List.mem_cons_of_mem _ (List.mem_of_getLast? hlast), ?_⟩
        exact List.Subset.trans (List.dropLast_subset rest) (List.subset_cons_self _ _)
    · exact List.cons_subset_cons _ ih

theorem mem_setIfAbsent {members : Members} {key : String} {value : Document}
    {entry : String × Document} (h : entry ∈ setIfAbsent members key value) :
    entry ∈ members ∨ entry = (key, value) := by
  unfold setIfAbsent at h
  split_ifs at h
  · exact .inl h
  · simpa using h

end Members

namespace Document.RefsIn

variable {P : String → Prop} {members : Members} {key : String} {value : Document}

theorem setIfAbsent (h : RefsIn P (.object members)) (hentry : EntryRefsIn P (key, value)) :
    RefsIn P (.object (Members.setIfAbsent members key value)) := by
  rw [refsIn_object] at h ⊢
  intro entry hmem
  rcases Members.mem_setIfAbsent hmem with hmem | rfl
  · exact h entry hmem
  · exact hentry

theorem eraseSwap (h : RefsIn P (.object members)) (key : String) :
    RefsIn P (.object (Members.eraseSwap members key)) :=
  h.subset (Members.eraseSwap_subset members key)

end Document.RefsIn

namespace Spec

open Document

/-! ### Merging keeps references -/

namespace Merge

/-- Every reference in the merge has the property. -/
structure RefsIn (P : String → Prop) (merge : Merge) : Prop where
  members : Document.RefsIn P (.object merge.members)
  properties : Document.RefsIn P (.object merge.properties)
  required : Document.RefsIn P (.list merge.required)

variable {P : String → Prop} {merge : Merge} {members : Members} {branch : Document}

theorem refsIn_start (h : Document.RefsIn P (.object members)) : (start members).RefsIn P := by
  have hbranches := h.eraseSwap "allOf"
  have hproperties := hbranches.eraseSwap "properties"
  exact ⟨hproperties.eraseSwap "required", hbranches.membersAt "properties",
    hproperties.itemsAt "required"⟩

theorem refsIn_foldl_supplied (keys : List String) (hkeys : ∀ key ∈ keys, key ≠ "$ref")
    (h : Document.RefsIn P (.object members)) (hbranch : Document.RefsIn P branch) :
    Document.RefsIn P (.object (keys.foldl (fun members key =>
      match branch.get? key with
      | some value => Members.setIfAbsent members key value
      | none => members) members)) := by
  induction keys generalizing members with
  | nil => exact h
  | cons key rest ih =>
    rw [List.forall_mem_cons] at hkeys
    rw [List.foldl_cons]
    apply ih hkeys.2
    cases hget : branch.get? key with
    | none => exact h
    | some value => exact h.setIfAbsent (.of_ne hkeys.1 (hbranch.get? hget))

theorem refsIn_foldl_properties (entries : Members) (h : Document.RefsIn P (.object members))
    (hentries : ∀ entry ∈ entries, EntryRefsIn P entry) :
    Document.RefsIn P (.object (entries.foldl
      (fun properties entry => Members.setIfAbsent properties entry.1 entry.2) members)) := by
  induction entries generalizing members with
  | nil => exact h
  | cons entry rest ih =>
    rw [List.forall_mem_cons] at hentries
    exact ih (h.setIfAbsent hentries.1) hentries.2

theorem refsIn_add (h : merge.RefsIn P) (hbranch : Document.RefsIn P branch) :
    (merge.add branch).RefsIn P := by
  refine ⟨?_, ?_, ?_⟩
  · exact refsIn_foldl_supplied supplied (by decide) h.members hbranch
  · exact refsIn_foldl_properties _ h.properties
      (refsIn_object.mp (hbranch.membersAt "properties"))
  · refine refsIn_list.mpr fun name hname => ?_
    rcases mem_or_mem_of_mem_addNew hname with hname | hname
    · exact refsIn_list.mp h.required name hname
    · exact refsIn_list.mp (hbranch.itemsAt "required") name hname

theorem refsIn_foldl_add (branches : List Document) (h : merge.RefsIn P)
    (hbranches : ∀ branch ∈ branches, Document.RefsIn P branch) :
    (branches.foldl add merge).RefsIn P := by
  induction branches generalizing merge with
  | nil => exact h
  | cons first rest ih =>
    rw [List.forall_mem_cons] at hbranches
    exact ih (refsIn_add h hbranches.1) hbranches.2

theorem refsIn_finish (h : merge.RefsIn P) : Document.RefsIn P merge.finish := by
  have hmembers : Document.RefsIn P (.object
      (if merge.properties.isEmpty then merge.members
        else Members.set (Members.setIfAbsent merge.members "type" (.text "object")) "properties"
          (.object merge.properties))) := by
    split_ifs
    · exact h.members
    · exact (h.members.setIfAbsent (.of_ne (by decide) (.text _))).set
        (.of_ne (by decide) h.properties)
  have hrequired : EntryRefsIn P ("required", .list merge.required) :=
    .of_ne (by decide) h.required
  unfold finish
  dsimp only
  by_cases hempty : merge.required.isEmpty = true
  · rw [if_pos hempty]
    exact hmembers
  · rw [if_neg hempty]
    exact hmembers.set hrequired

end Merge

/-! ### Agreement -/

/-- The reference leads to the same node in both descriptions, or to none in both. -/
def AgreeOn (spec other : Spec) (reference : String) : Prop :=
  spec.target? reference = other.target? reference

variable {spec other : Spec} {doc : Document}

/-- A document and its resolution have agreeing references only. -/
theorem refsIn_resolve {P : String → Prop} (hroot : RefsIn P spec.root) (hdoc : RefsIn P doc) :
    RefsIn P (spec.resolve doc) := by
  rcases spec.resolve_mem doc with hsame | hpart
  · rw [hsame]
    exact hdoc
  · exact hroot.of_part hpart

theorem next?_eq (hdoc : RefsIn (AgreeOn spec other) doc) : spec.next? doc = other.next? doc := by
  unfold next?
  cases href : doc.getText? "$ref" with
  | none => rfl
  | some reference => exact hdoc.ref href

theorem resolveWithin_eq (hroot : RefsIn (AgreeOn spec other) spec.root) (hops : Nat)
    (hdoc : RefsIn (AgreeOn spec other) doc) :
    spec.resolveWithin hops doc = other.resolveWithin hops doc := by
  induction hops generalizing doc with
  | zero => rfl
  | succ hops ih =>
    rw [resolveWithin, resolveWithin, ← next?_eq hdoc]
    cases hnext : spec.next? doc with
    | none => rfl
    | some target =>
      obtain ⟨reference, -, htarget⟩ := next?_eq_some_iff.mp hnext
      exact ih (hroot.of_part (mem_parts_of_target? htarget))

theorem resolve_eq (hroot : RefsIn (AgreeOn spec other) spec.root)
    (hdoc : RefsIn (AgreeOn spec other) doc) : spec.resolve doc = other.resolve doc :=
  resolveWithin_eq hroot maxHops hdoc

/-- Two documents that are the same reference lead to the same, or each of them to itself. -/
theorem resolve_eq_or (hroot : RefsIn (AgreeOn spec other) spec.root)
    (hdoc : RefsIn (AgreeOn spec other) doc) {doc' : Document}
    (href : doc.getText? "$ref" = doc'.getText? "$ref") :
    spec.resolve doc = other.resolve doc' ∨ spec.resolve doc = doc ∧ other.resolve doc' = doc' := by
  have hnext : spec.next? doc = other.next? doc' := by
    rw [next?_eq hdoc]
    unfold next?
    rw [href]
  cases hfound : spec.next? doc with
  | none =>
    rw [hfound] at hnext
    exact .inr ⟨resolve_of_isEnd (isEnd_iff.mpr hfound),
      resolve_of_isEnd (isEnd_iff.mpr hnext.symm)⟩
  | some target =>
    rw [hfound] at hnext
    obtain ⟨reference, -, htarget⟩ := next?_eq_some_iff.mp hfound
    rw [resolve_of_next? hfound, resolve_of_next? hnext.symm]
    exact .inl (resolveWithin_eq hroot _ (hroot.of_part (mem_parts_of_target? htarget)))

theorem refsIn_resolveSchemaWithin {P : String → Prop} (hroot : RefsIn P spec.root)
    (levels : Nat) (hdoc : RefsIn P doc) : RefsIn P (spec.resolveSchemaWithin levels doc) := by
  induction levels generalizing doc with
  | zero => exact refsIn_resolve hroot hdoc
  | succ levels ih =>
    have hresolved := refsIn_resolve hroot hdoc
    rw [resolveSchemaWithin]
    split
    · rename_i members branches hobject hbranches
      rw [hobject] at hresolved hbranches
      apply Merge.refsIn_finish
      apply Merge.refsIn_foldl_add _ (Merge.refsIn_start hresolved)
      intro branch hbranch
      obtain ⟨before, hbefore, rfl⟩ := List.mem_map.mp hbranch
      exact ih (hresolved.item hbranches hbefore)
    · exact hresolved

theorem refsIn_resolveSchema {P : String → Prop} (hroot : RefsIn P spec.root)
    (hdoc : RefsIn P doc) : RefsIn P (spec.resolveSchema doc) :=
  refsIn_resolveSchemaWithin hroot maxAllOfDepth hdoc

theorem resolveSchema_eq (hroot : RefsIn (AgreeOn spec other) spec.root)
    (hdoc : RefsIn (AgreeOn spec other) doc) :
    spec.resolveSchema doc = other.resolveSchema doc := by
  unfold resolveSchema
  generalize maxAllOfDepth = levels
  induction levels generalizing doc with
  | zero => exact resolve_eq hroot hdoc
  | succ levels ih =>
    have hresolved := refsIn_resolve hroot hdoc
    rw [resolveSchemaWithin, resolveSchemaWithin, ← resolve_eq hroot hdoc]
    split
    · rename_i members branches hobject hbranches
      rw [hobject] at hresolved hbranches
      -- Both merge the same branches into the same members.
      have hmap : branches.map (spec.resolveSchemaWithin levels)
          = branches.map (other.resolveSchemaWithin levels) :=
        List.map_congr_left fun branch hbranch => ih (hresolved.item hbranches hbranch)
      simp only [hmap]
    · rfl

end Spec

end ApiTools
