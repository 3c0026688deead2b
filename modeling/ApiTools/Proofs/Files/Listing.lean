import ApiTools.Proofs.Files.Tree
import Mathlib.Data.List.Nodup

/-!
# What is listed in a directory

A name is listed in a directory when something stands there (`FileTree.mem_names`).  The single
changes to a tree keep each name listed once, and list no other name than that of the place that they
change (`FileTree.nodup_names_set`, `FileTree.mem_names_of_set`).
-/

namespace ApiTools.FileTree

variable {tree made : FileTree} {place spot : Place} {entry : FileEntry} {base name : String}

/-- The names in the directory at the place. -/
def names (tree : FileTree) (place : Place) : List String := (tree.children place).map Prod.fst

/-- The name that an entry has in a directory. -/
def nameIn (place : Place) (entry : Place × FileEntry) : Option String :=
  if entry.1.dropLast = place then entry.1.getLast? else none

theorem nameIn_eq_some {entry : Place × FileEntry} :
    nameIn place entry = some name ↔ entry.1 = place ++ [name] := by
  unfold nameIn
  constructor
  · intro h
    split_ifs at h with hplace
    obtain ⟨front, hfront⟩ := List.getLast?_eq_some_iff.mp h
    rw [hfront, List.dropLast_concat] at hplace
    rw [hfront, hplace]
  · intro h
    rw [h, List.dropLast_concat, if_pos rfl, List.getLast?_concat]

theorem names_eq (tree : FileTree) (place : Place) :
    tree.names place = tree.entries.filterMap (nameIn place) := by
  unfold names children
  rw [List.map_filterMap]
  refine List.filterMap_congr ?_
  rintro ⟨other, entry⟩ -
  unfold nameIn
  dsimp only
  rcases other.getLast? with _ | name
  · split_ifs <;> rfl
  · dsimp only
    split_ifs <;> rfl

theorem isSome_lookup {entries : List (Place × FileEntry)} :
    (entries.lookup spot).isSome ↔ ∃ entry ∈ entries, entry.1 = spot := by
  rw [← Option.ne_none_iff_isSome, Ne, List.lookup_eq_none_iff]
  constructor
  · intro h
    by_contra hnone
    exact h fun entry hentry => bne_iff_ne.mpr fun heq => hnone ⟨entry, hentry, heq.symm⟩
  · rintro ⟨entry, hentry, rfl⟩ h
    simpa using h entry hentry

/-- What stands in a directory is listed. -/
theorem mem_names : name ∈ tree.names place ↔ (tree.entry? (place ++ [name])).isSome := by
  have hne : place ++ [name] ≠ [] := by simp
  rw [names_eq, List.mem_filterMap, entry?_of_ne_nil _ hne, isSome_lookup]
  simp only [nameIn_eq_some]

theorem names_erase_sublist (tree : FileTree) (spot place : Place) :
    (names (tree.erase spot) place).Sublist (tree.names place) := by
  rw [names_eq, names_eq]
  exact List.filter_sublist.filterMap _

theorem names_set (tree : FileTree) (spot : Place) (entry : FileEntry) (place : Place) :
    names (tree.set spot entry) place
      = names (tree.erase spot) place ++ (nameIn place (spot, entry)).toList := by
  rw [names_eq, names_eq]
  unfold set erase
  rw [List.filterMap_append]
  congr 1

theorem mem_names_of_set (h : name ∈ names (tree.set spot entry) place) :
    name ∈ tree.names place ∨ spot = place ++ [name] := by
  rw [names_set, List.mem_append, Option.mem_toList, nameIn_eq_some] at h
  exact h.imp_left fun hmem => (names_erase_sublist tree spot place).subset hmem

/-- A name is still listed once when a place is changed. -/
theorem nodup_names_set (h : (tree.names place).Nodup) (spot : Place) (entry : FileEntry) :
    (names (tree.set spot entry) place).Nodup := by
  rw [names_set, List.nodup_append]
  refine ⟨(names_erase_sublist tree spot place).nodup h, ?_, ?_⟩
  · rcases nameIn place (spot, entry) with _ | name
    · exact List.nodup_nil
    · exact List.nodup_singleton name
  · rintro name hmem other hother rfl
    rw [Option.mem_toList, nameIn_eq_some] at hother
    dsimp only at hother
    have hne : place ++ [name] ≠ [] := by simp
    rw [mem_names, hother, entry?_erase_self _ hne] at hmem
    cases hmem

/-! ### Directories that are there -/

/-- A directory that is found has a way to it. -/
theorem areDirectories_of_find? (h : tree.find? base = some .directory) :
    tree.entry? (Path.place base) = some .directory ∧
      tree.AreDirectories (ways [] (Path.parts base)) := by
  unfold find? at h
  rcases hlocate : tree.locate base with cause | spot
  · rw [hlocate] at h
    cases h
  rw [hlocate] at h
  obtain ⟨rfl, hways⟩ := locate_eq_ok hlocate
  refine ⟨h, fun spot hspot => ?_⟩
  rw [← List.dropLast_concat_getLast (ways_ne_nil [] (Path.parts base)), getLast_ways,
    List.mem_append, List.mem_singleton] at hspot
  rcases hspot with hspot | rfl
  · exact hways spot hspot
  · exact h

/-- A directory that is found is listed. -/
theorem list_of_find? (h : tree.find? base = some .directory) :
    tree.list base = .ok (tree.children (Path.place base)) := by
  unfold find? at h
  unfold list
  rcases hlocate : tree.locate base with cause | spot
  · rw [hlocate] at h
    cases h
  rw [hlocate] at h
  obtain rfl := (locate_eq_ok hlocate).1
  simp only [bind, Except.bind, h]
  rfl

/-- What is found below a directory is what stands there. -/
theorem find?_join (hname : Path.IsSegment name) (h : tree.find? base = some .directory) :
    tree.find? (Path.join base name) = tree.entry? (Path.place base ++ [name]) := by
  unfold find?
  rw [locate_join hname (areDirectories_of_find? h).2]

variable (hname : Path.IsSegment name)
  (h : tree.AreDirectories (ways [] (Path.parts (Path.join base name))))

include hname h

theorem locate_directory : tree.locate (Path.join base name) = .ok (Path.place base ++ [name]) ∧
    tree.entry? (Path.place base ++ [name]) = some .directory := by
  rw [Path.parts_join base hname, ways_concat] at h
  refine ⟨locate_join hname fun spot hspot => h spot (List.mem_append_left _ hspot), h _ ?_⟩
  rw [hname.step]
  exact List.mem_append_right _ (List.mem_singleton_self _)

/-- A directory to which there is a way is found. -/
theorem find?_directory : tree.find? (Path.join base name) = some .directory := by
  obtain ⟨hlocate, hentry⟩ := locate_directory hname h
  unfold find?
  rw [hlocate]
  exact hentry

/-- A directory to which there is a way is listed. -/
theorem list_directory :
    tree.list (Path.join base name) = .ok (tree.children (Path.place base ++ [name])) := by
  rw [list_of_find? (find?_directory hname h), Path.place_join base hname]

end ApiTools.FileTree
