import ApiTools.Files.Documents
import ApiTools.Proofs.Files.Listing
import ApiTools.Proofs.Files.Store
import ApiTools.Proofs.Naming.Names

/-!
# Well-formed trees

A tree is well-formed when each place has one entry and what has an entry stands in a directory, under
a name that a path can lead to.  Each operation keeps that (`FileTree.IsWellFormed.write` and those
beside it).  In a well-formed tree there are directories on the whole way to an entry
(`FileTree.IsWellFormed.of_append`), and a directory lists what stands in it, each name once
(`FileTree.IsWellFormed.mem_children_iff`).
-/

namespace ApiTools.FileTree

variable {tree after : FileTree} {place spot : Place} {entry : FileEntry} {name path : String}

/-- Has each place one entry, and does what has an entry stand in a directory? -/
structure IsWellFormed (tree : FileTree) : Prop where
  nodup : (tree.entries.map Prod.fst).Nodup
  segments : ∀ entry ∈ tree.entries, ∀ name ∈ entry.1, Path.IsSegment name
  parent : ∀ entry ∈ tree.entries, tree.entry? entry.1.dropLast = some .directory

theorem isWellFormed_iff : tree.IsWellFormed ↔ (tree.entries.map Prod.fst).Nodup ∧
    (∀ entry ∈ tree.entries, ∀ name ∈ entry.1, Path.IsSegment name) ∧
    ∀ entry ∈ tree.entries, tree.entry? entry.1.dropLast = some .directory :=
  ⟨fun h => ⟨h.nodup, h.segments, h.parent⟩, fun h => ⟨h.1, h.2.1, h.2.2⟩⟩

instance (tree : FileTree) : Decidable tree.IsWellFormed := decidable_of_iff _ isWellFormed_iff.symm

/-! ### Entries -/

theorem lookup_eq_some_iff_mem {entries : List (Place × FileEntry)}
    (hnodup : (entries.map Prod.fst).Nodup) :
    entries.lookup spot = some entry ↔ (spot, entry) ∈ entries := by
  induction entries with
  | nil => simp
  | cons first rest ih =>
    rw [List.map_cons, List.nodup_cons] at hnodup
    obtain ⟨other, found⟩ := first
    rw [List.lookup_cons, List.mem_cons, Prod.mk.injEq]
    by_cases hspot : spot = other
    · subst hspot
      have hrest : (spot, entry) ∉ rest := fun hmem =>
        hnodup.1 (List.mem_map.mpr ⟨_, hmem, rfl⟩)
      simp [hrest, eq_comm]
    · rw [beq_eq_false_iff_ne.mpr hspot, ih hnodup.2]
      simp [hspot]

namespace IsWellFormed

variable (h : tree.IsWellFormed)

include h

/-- Below a root, the entries are what stands at the places. -/
theorem mem_entries_iff (hroot : spot ≠ []) :
    (spot, entry) ∈ tree.entries ↔ tree.entry? spot = some entry := by
  rw [entry?_of_ne_nil _ hroot, lookup_eq_some_iff_mem h.nodup]

theorem directory_of_dropLast (hentry : tree.entry? spot = some entry) :
    tree.entry? spot.dropLast = some .directory := by
  by_cases hroot : spot = []
  · rw [hroot, List.dropLast_nil, entry?_nil]
  · exact h.parent _ ((h.mem_entries_iff hroot).mpr hentry)

/-- What stands above an entry is a directory. -/
theorem of_append {names : List String} (hnames : names ≠ [])
    (hentry : tree.entry? (place ++ names) = some entry) :
    tree.entry? place = some .directory := by
  induction names using List.reverseRecOn generalizing entry with
  | nil => exact absurd rfl hnames
  | append_singleton names name ih =>
    have hparent := h.directory_of_dropLast hentry
    rw [← List.append_assoc, List.dropLast_concat] at hparent
    by_cases hempty : names = []
    · rwa [hempty, List.append_nil] at hparent
    · exact ih hempty hparent

theorem isSegment_of_mem (hentry : tree.entry? spot = some entry) :
    ∀ name ∈ spot, Path.IsSegment name := by
  by_cases hroot : spot = []
  · rw [hroot]
    exact fun _ hname => absurd hname List.not_mem_nil
  · exact h.segments _ ((h.mem_entries_iff hroot).mpr hentry)

/-- A directory lists what stands in it. -/
theorem mem_children_iff {isDirectory : Bool} : (name, isDirectory) ∈ tree.children place ↔
    ∃ entry, tree.entry? (place ++ [name]) = some entry ∧
      isDirectory = decide (entry = .directory) := by
  have hroot : place ++ [name] ≠ [] := by simp
  unfold children
  rw [List.mem_filterMap]
  constructor
  · rintro ⟨⟨other, entry⟩, hmem, hfound⟩
    dsimp only at hfound
    rcases hlast : other.getLast? with _ | last
    · rw [hlast] at hfound
      cases hfound
    · rw [hlast] at hfound
      dsimp only at hfound
      split_ifs at hfound with hplace
      cases hfound
      have hother : place ++ [name] = other := by
        rw [← hplace]
        exact List.dropLast_append_getLast? name hlast
      exact ⟨entry, (h.mem_entries_iff hroot).mp (hother ▸ hmem), rfl⟩
  · rintro ⟨entry, hentry, rfl⟩
    refine ⟨(place ++ [name], entry), (h.mem_entries_iff hroot).mpr hentry, ?_⟩
    simp

/-- A directory lists each name once. -/
theorem nodup_names (place : Place) : (tree.names place).Nodup := by
  have hplaces : tree.names place = (tree.entries.map Prod.fst).filterMap
      fun spot => nameIn place (spot, .directory) := by
    rw [names_eq, List.filterMap_map]
    rfl
  rw [hplaces]
  refine List.Nodup.filterMap ?_ h.nodup
  intro spot other name hname hother
  exact (nameIn_eq_some.mp hname).trans (nameIn_eq_some.mp hother).symm

end IsWellFormed

/-- What stands at the places does not depend on the order of the entries. -/
theorem entry?_congr_of_perm {other : FileTree} (h : tree.IsWellFormed)
    (hperm : other.entries.Perm tree.entries) (spot : Place) :
    other.entry? spot = tree.entry? spot := by
  by_cases hroot : spot = []
  · rw [hroot, entry?_nil, entry?_nil]
  have hnodup : (other.entries.map Prod.fst).Nodup := (hperm.map Prod.fst).nodup_iff.mpr h.nodup
  refine Option.ext fun entry => ?_
  rw [entry?_of_ne_nil _ hroot, entry?_of_ne_nil _ hroot, lookup_eq_some_iff_mem hnodup,
    lookup_eq_some_iff_mem h.nodup, hperm.mem_iff]

theorem find?_congr_of_perm {other : FileTree} (h : tree.IsWellFormed)
    (hperm : other.entries.Perm tree.entries) (path : String) :
    other.find? path = tree.find? path := by
  have hentry := entry?_congr_of_perm h hperm
  unfold find?
  rw [locate_congr fun spot _ => hentry spot]
  rcases tree.locate path with cause | spot
  · rfl
  · exact hentry spot

theorem IsWellFormed.perm {other : FileTree} (h : tree.IsWellFormed)
    (hperm : other.entries.Perm tree.entries) : other.IsWellFormed where
  nodup := (hperm.map Prod.fst).nodup_iff.mpr h.nodup
  segments entry hentry := h.segments entry (hperm.mem_iff.mp hentry)
  parent entry hentry := by
    rw [entry?_congr_of_perm h hperm]
    exact h.parent entry (hperm.mem_iff.mp hentry)

/-! ### What operations keep -/

theorem isWellFormed_empty : IsWellFormed .empty := by decide

theorem IsWellFormed.erase (h : tree.IsWellFormed)
    (hplace : tree.entry? place ≠ some .directory) : IsWellFormed (tree.erase place) where
  nodup := h.nodup.sublist (List.filter_sublist.map Prod.fst)
  segments entry hentry := h.segments entry (List.mem_of_mem_filter hentry)
  parent entry hentry := by
    have hparent := h.parent entry (List.mem_of_mem_filter hentry)
    rw [entry?_erase_of_ne, hparent]
    rintro hdropLast
    exact hplace (hdropLast ▸ hparent)

theorem IsWellFormed.set (h : tree.IsWellFormed)
    (hsegments : ∀ name ∈ place, Path.IsSegment name)
    (hparent : tree.entry? place.dropLast = some .directory)
    (hplace : tree.entry? place ≠ some .directory) (entry : FileEntry) :
    IsWellFormed (tree.set place entry) where
  nodup := by
    have herased := (h.erase hplace).nodup
    show (((tree.erase place).entries ++ [(place, entry)]).map Prod.fst).Nodup
    rw [List.map_append, List.map_singleton, List.nodup_append]
    refine ⟨herased, List.nodup_singleton _, ?_⟩
    rintro spot hspot other hother rfl
    obtain ⟨found, hfound, rfl⟩ := List.mem_map.mp hspot
    have hne := (List.mem_filter.mp hfound).2
    rw [decide_eq_true_eq] at hne
    exact hne (List.mem_singleton.mp hother)
  segments found hfound := by
    rcases List.mem_append.mp hfound with hkept | hnew
    · exact h.segments found (List.mem_of_mem_filter hkept)
    · rw [List.mem_singleton.mp hnew]
      exact hsegments
  parent found hfound := by
    have hdirectory : tree.entry? found.1.dropLast = some .directory := by
      rcases List.mem_append.mp hfound with hkept | hnew
      · exact h.parent found (List.mem_of_mem_filter hkept)
      · rw [List.mem_singleton.mp hnew]
        exact hparent
    rw [entry?_set_of_ne, hdirectory]
    rintro hdropLast
    exact hplace (hdropLast ▸ hdirectory)

theorem isSegment_of_mem_parts (hname : name ∈ Path.parts path) (hup : name ≠ "..") :
    Path.IsSegment name := by
  obtain ⟨hpiece, hkept⟩ := List.mem_filter.mp hname
  rw [Bool.and_eq_true, Bool.not_eq_true', ← Bool.not_eq_true, String.isEmpty_iff,
    decide_eq_true_eq] at hkept
  exact ⟨hkept.1, hkept.2, hup, fun hslash => (Text.mem_split hpiece hslash).2 rfl⟩

/-- The names that a path leads through are names that things in a directory may have. -/
theorem isSegment_of_mem_place (path : String) : ∀ name ∈ Path.place path, Path.IsSegment name := by
  have hparts : ∀ name ∈ Path.parts path, name ≠ ".." → Path.IsSegment name :=
    fun _ => isSegment_of_mem_parts
  unfold Path.place
  generalize Path.parts path = names at hparts
  induction names using List.reverseRecOn with
  | nil => exact fun _ h => absurd h List.not_mem_nil
  | append_singleton names last ih =>
    have hnames := ih fun name hname => hparts name (List.mem_append_left _ hname)
    rw [List.foldl_append, List.foldl_cons, List.foldl_nil]
    unfold step
    split_ifs with hup
    · exact fun name hname => hnames name ((List.dropLast_subset _) hname)
    · rw [List.forall_mem_append, List.forall_mem_singleton]
      exact ⟨hnames, hparts last (by simp) hup⟩

/-- Where a path leads, to a file or to nothing, there is a directory to stand in. -/
theorem parent_of_locate (hlocate : tree.locate path = .ok spot)
    (hspot : tree.entry? spot ≠ some .directory) :
    spot ≠ [] ∧ tree.entry? spot.dropLast = some .directory := by
  have hroot : spot ≠ [] := by
    rintro rfl
    exact hspot tree.entry?_nil
  obtain ⟨rfl, hways⟩ := locate_eq_ok hlocate
  refine ⟨hroot, hways _ ?_⟩
  -- The place above the end is passed, and it is not the end.
  have habove : (Path.place path).dropLast ∈ ways [] (Path.parts path) :=
    mem_ways_of_above (List.dropLast_prefix _)
  rw [← List.dropLast_concat_getLast (ways_ne_nil [] (Path.parts path)), getLast_ways,
    List.mem_append, List.mem_singleton] at habove
  refine habove.resolve_right fun hend => ?_
  have hlength := congrArg List.length hend
  have hpos := List.length_pos_iff.mpr hroot
  rw [List.length_dropLast] at hlength
  unfold Path.place at hlength hpos
  omega

namespace IsWellFormed

variable {content target : String}

theorem set_of_locate (h : tree.IsWellFormed) (hlocate : tree.locate path = .ok spot)
    (hspot : tree.entry? spot ≠ some .directory) (entry : FileEntry) :
    IsWellFormed (tree.set spot entry) := by
  obtain rfl := (locate_eq_ok hlocate).1
  exact h.set (isSegment_of_mem_place path) (parent_of_locate hlocate hspot).2 hspot entry

theorem write (h : tree.IsWellFormed) (hwrite : tree.write path content = .ok after) :
    after.IsWellFormed := by
  obtain ⟨hlocate, -, hentry, rfl⟩ := FileStore.write_eq_ok hwrite
  exact h.set_of_locate hlocate hentry _

theorem remove (h : tree.IsWellFormed) (hremove : tree.remove path = .ok after) :
    after.IsWellFormed := by
  rcases hlocate : tree.locate path with cause | spot
  · unfold FileTree.remove at hremove
    rw [hlocate] at hremove
    cases hremove
  rw [FileStore.remove_of_locate hlocate] at hremove
  split at hremove
  · cases hremove
  · next content hentry =>
    cases hremove
    exact h.erase (by rw [hentry]; simp)
  · cases hremove

/-- Directories are made one in the other. -/
theorem makeDirectories {names : List String} (h : tree.IsWellFormed)
    (hplace : tree.entry? place = some .directory)
    (hnames : ∀ name ∈ names, name ≠ ".." → Path.IsSegment name)
    (hmake : tree.makeDirectories place names = .ok after) : after.IsWellFormed := by
  induction names generalizing place tree with
  | nil => exact Except.ok.inj hmake ▸ h
  | cons name rest ih =>
    rw [List.forall_mem_cons] at hnames
    rw [FileTree.makeDirectories] at hmake
    rcases hentry : tree.entry? (step place name) with _ | (_ | content)
    · -- Above a directory there is one, so this is a name in the directory.
      have hup : name ≠ ".." := by
        rintro rfl
        rw [step, if_pos rfl, h.directory_of_dropLast hplace] at hentry
        cases hentry
      have hnext : step place name = place ++ [name] := if_neg hup
      rw [hnext] at hentry hmake
      have hsegments : ∀ found ∈ place ++ [name], Path.IsSegment found := by
        rw [List.forall_mem_append, List.forall_mem_singleton]
        exact ⟨h.isSegment_of_mem hplace, hnames.1 hup⟩
      have hset : IsWellFormed (tree.set (place ++ [name]) .directory) := by
        refine h.set hsegments ?_ (by simp [hentry]) .directory
        rwa [List.dropLast_concat]
      simp only [hentry] at hmake
      exact ih hset (entry?_set_self _ _ (by simp)) hnames.2 hmake
    · simp only [hentry] at hmake
      exact ih h hentry hnames.2 hmake
    · simp only [hentry] at hmake
      cases hmake

theorem createDirectories (h : tree.IsWellFormed)
    (hcreate : tree.createDirectories path = .ok after) : after.IsWellFormed :=
  h.makeDirectories tree.entry?_nil (fun _ => isSegment_of_mem_parts) hcreate

theorem rename (h : tree.IsWellFormed) (hrename : tree.rename path target = .ok after) :
    after.IsWellFormed := by
  obtain ⟨spot, goal, content, -, hspot, hlocate, hgoal, rfl⟩ := FileStore.rename_eq_ok hrename
  have hparent := (parent_of_locate hlocate hgoal).2
  obtain rfl := (locate_eq_ok hlocate).1
  have herased : IsWellFormed (tree.erase spot) := h.erase (by rw [hspot]; simp)
  have hne : (Path.place target).dropLast ≠ spot := by
    rintro rfl
    rw [hparent] at hspot
    cases hspot
  refine herased.set (isSegment_of_mem_place target) ?_ ?_ _
  · rwa [entry?_erase_of_ne _ hne]
  · by_cases hsame : Path.place target = spot
    · rw [hsame]
      intro hdirectory
      have hroot : spot ≠ [] := by
        rintro rfl
        rw [entry?_nil] at hspot
        cases hspot
      rw [entry?_erase_self _ hroot] at hdirectory
      cases hdirectory
    · rwa [entry?_erase_of_ne _ hsame]

/-! ### What actions keep -/

theorem run_update {result : FileTree → Except FileError FileTree} (h : tree.IsWellFormed)
    (hresult : ∀ after, result tree = .ok after → after.IsWellFormed) :
    IsWellFormed ((FileStore.update result).run tree).2 := by
  rcases hrun : result tree with cause | after
  · rw [FileStore.run_update_of_error hrun]
    exact h
  · rw [FileStore.run_update_of_ok hrun]
    exact hresult after hrun

/-- An atomic write leaves a well-formed tree, whether it succeeds or not. -/
theorem run_writeAtomic (h : tree.IsWellFormed) (path content : String) :
    IsWellFormed ((FileStore.writeAtomic path content :
      StateM FileTree (Except FileError Unit)).run tree).2 := by
  have hremoved : ∀ {tree : FileTree} (beside : String), tree.IsWellFormed →
      IsWellFormed ((tree.remove beside).toOption.getD tree) := by
    intro tree beside htree
    rcases hremove : tree.remove beside with cause | after
    · exact htree
    · exact htree.remove hremove
  rw [FileStore.run_writeAtomic_steps]
  rcases hwrite : tree.write (FileStore.stagingPath path) content with cause | staged
  · exact hremoved _ h
  have hstaged := h.write hwrite
  dsimp only
  rcases hrename : staged.rename (FileStore.stagingPath path) path with cause | after
  · exact hremoved _ hstaged
  · exact hstaged.rename hrename

/-- A file that is saved leaves a well-formed tree, whether it can be saved or not. -/
theorem run_save (h : tree.IsWellFormed) (path content : String) :
    IsWellFormed ((FileStore.save path content :
      ExceptT Failure (StateM FileTree) Unit).run.run tree).2 := by
  have hparent : IsWellFormed ((FileStore.createParent path :
      StateM FileTree (Except FileError Unit)).run tree).2 := by
    unfold FileStore.createParent
    split
    · split
      · exact h
      · exact h.run_update fun after hcreate => h.createDirectories hcreate
    · exact h
  unfold FileStore.save
  rw [ExceptT.run_bind, StateT.run_bind, FileStore.run_attempt]
  -- Where the directories cannot be made, nothing is written.
  rcases hrun : (FileStore.createParent path : StateM FileTree (Except FileError Unit)).run tree with
    ⟨cause | _, between⟩
  · rw [hrun] at hparent
    exact hparent
  · rw [hrun] at hparent
    have hwritten : IsWellFormed ((FileStore.write path content :
        StateM FileTree (Except FileError Unit)).run between).2 :=
      hparent.run_update fun after hwrite => hparent.write hwrite
    show IsWellFormed ((FileStore.attempt (FileStore.write path content) :
      ExceptT Failure (StateM FileTree) Unit).run.run between).2
    rw [FileStore.run_attempt]
    rcases hwrite : (FileStore.write path content :
        StateM FileTree (Except FileError Unit)).run between with ⟨cause | _, after⟩
    · rw [hwrite] at hwritten
      exact hwritten
    · rw [hwrite] at hwritten
      exact hwritten

end IsWellFormed

/-- The tree of files that are saved one after the other, each in the directories that it needs. -/
def ofFiles (files : List (String × String)) : FileTree :=
  files.foldl (fun tree file => ((FileStore.save file.1 file.2 :
    ExceptT Failure (StateM FileTree) Unit).run.run tree).2) .empty

/-- Files that are saved make a well-formed tree. -/
theorem isWellFormed_ofFiles (files : List (String × String)) : IsWellFormed (ofFiles files) :=
  List.foldlRecOn files _ isWellFormed_empty fun _ h file _ => h.run_save file.1 file.2

end ApiTools.FileTree
