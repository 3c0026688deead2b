import ApiTools.Audit.Project
import ApiTools.Proofs.Files.WellFormed
import ApiTools.Proofs.Text.Order

/-!
# Which projects are found

The search goes down from a directory entry by entry, and stops at projects (`Audit.searchBelow`).
What it finds is told by what stands in the tree: the projects within the levels that lie in no
other one (`Audit.mem_searchBelow`), each once (`Audit.nodup_searchBelow`).  So the order in which
directories list their entries plays no part (`Audit.searchBelow_perm`).
-/

namespace ApiTools.Audit

variable {tree other : FileTree} {place : Place} {name directory root : String}
  {names rest : List String} {levels : Nat}

/-- Do the names lead from a place to a directory that has the name of a project, and tools? -/
structure IsProjectAt (tree : FileTree) (place : Place) (names : List String) : Prop where
  directory : tree.entry? (place ++ names) = some .directory
  named : ∃ name ∈ names.getLast?, isProjectName name = true
  tools : (tree.entry? (place ++ names ++ ["tools"])).isSome

theorem isProjectAt_iff : IsProjectAt tree place names ↔
    tree.entry? (place ++ names) = some .directory ∧
      (∃ name ∈ names.getLast?, isProjectName name = true) ∧
      (tree.entry? (place ++ names ++ ["tools"])).isSome :=
  ⟨fun h => ⟨h.directory, h.named, h.tools⟩, fun h => ⟨h.1, h.2.1, h.2.2⟩⟩

/-- A project that lies in no other one. -/
def IsOutermost (tree : FileTree) (place : Place) (names : List String) : Prop :=
  IsProjectAt tree place names ∧
    ∀ outer, outer <+: names → IsProjectAt tree place outer → outer = names

theorem not_isProjectAt_nil : ¬IsProjectAt tree place [] := by
  rintro ⟨-, ⟨name, hname, -⟩, -⟩
  cases hname

theorem isProjectAt_singleton : IsProjectAt tree place [name] ↔
    tree.entry? (place ++ [name]) = some .directory ∧ isProjectName name = true ∧
      (tree.entry? (place ++ [name] ++ ["tools"])).isSome := by
  rw [isProjectAt_iff]
  simp

theorem isProjectAt_cons (hrest : rest ≠ []) :
    IsProjectAt tree place (name :: rest) ↔ IsProjectAt tree (place ++ [name]) rest := by
  have hplace : place ++ name :: rest = place ++ [name] ++ rest := List.append_cons ..
  have hlast : (name :: rest).getLast? = rest.getLast? := by
    rw [List.getLast?_cons, List.getLast?_eq_some_getLast hrest, Option.getD_some]
  rw [isProjectAt_iff, isProjectAt_iff, hplace, hlast]

/-- The first directory on the way is the project itself, or the project lies below it. -/
theorem isOutermost_cons : IsOutermost tree place (name :: rest) ↔
    IsProjectAt tree place [name] ∧ rest = [] ∨
      ¬IsProjectAt tree place [name] ∧ IsOutermost tree (place ++ [name]) rest := by
  by_cases hfirst : IsProjectAt tree place [name]
  · simp only [hfirst, true_and, not_true_eq_false, false_and, or_false]
    constructor
    · intro h
      have hsame := h.2 [name] (List.prefix_append [name] rest) hfirst
      exact (List.cons.inj hsame).2.symm
    · rintro rfl
      refine ⟨hfirst, fun outer houter hproject => ?_⟩
      rcases List.prefix_cons_iff.mp houter with rfl | ⟨more, rfl, hmore⟩
      · exact absurd hproject not_isProjectAt_nil
      · rw [List.prefix_nil.mp hmore]
  · simp only [hfirst, false_and, not_false_eq_true, true_and, false_or]
    by_cases hrest : rest = []
    · subst hrest
      exact iff_of_false (fun h => hfirst h.1) fun h => not_isProjectAt_nil h.1
    unfold IsOutermost
    rw [isProjectAt_cons hrest]
    -- No project lies before the first directory, so that those on the way lie below it.
    refine and_congr_right fun _ => ⟨?_, ?_⟩
    · intro h outer houter hproject
      have hne : outer ≠ [] := by
        rintro rfl
        exact not_isProjectAt_nil hproject
      have hsame := h (name :: outer) (List.cons_prefix_cons.mpr ⟨rfl, houter⟩)
        ((isProjectAt_cons hne).mpr hproject)
      exact (List.cons.inj hsame).2
    · intro h outer houter hproject
      cases outer with
      | nil => exact absurd hproject not_isProjectAt_nil
      | cons first more =>
        obtain ⟨rfl, hmore⟩ := List.cons_prefix_cons.mp houter
        have hne : more ≠ [] := by
          rintro rfl
          exact hfirst hproject
        rw [h more hmore ((isProjectAt_cons hne).mp hproject)]

/-- A project lies in one that lies in no other one, or is one itself. -/
theorem IsProjectAt.exists_outermost (h : IsProjectAt tree place names) :
    ∃ outer, outer <+: names ∧ IsOutermost tree place outer := by
  induction names generalizing place with
  | nil => exact absurd h not_isProjectAt_nil
  | cons name rest ih =>
    by_cases hfirst : IsProjectAt tree place [name]
    · exact ⟨[name], List.prefix_append [name] rest, isOutermost_cons.mpr (.inl ⟨hfirst, rfl⟩)⟩
    · have hrest : rest ≠ [] := by
        rintro rfl
        exact hfirst h
      obtain ⟨outer, houter, houtermost⟩ := ih ((isProjectAt_cons hrest).mp h)
      exact ⟨name :: outer, List.cons_prefix_cons.mpr ⟨rfl, houter⟩,
        isOutermost_cons.mpr (.inr ⟨hfirst, houtermost⟩)⟩

/-! ### The search -/

/-- What is found at an entry of a directory: the entry itself or what is found below it. -/
def searchEntry (tree : FileTree) (place : Place) (below : List (List String)) :
    String × Bool → List (List String)
  | (name, isDirectory) =>
    if !isDirectory then []
    else if isProjectName name && (tree.entry? (place ++ [name] ++ ["tools"])).isSome then [[name]]
    else below.map (name :: ·)

/-- The names that lead from a place to what is found below it, down to a number of levels. -/
def searchBelow (tree : FileTree) : (levels : Nat) → Place → List (List String)
  | 0, _ => []
  | levels + 1, place => (tree.children place).flatMap fun entry =>
      searchEntry tree place (searchBelow tree levels (place ++ [entry.1])) entry

/-- The path to which names lead from a directory. -/
def pathBelow (directory : String) (names : List String) : String :=
  names.foldl Path.join directory

theorem parts_pathBelow (h : ∀ name ∈ names, Path.IsSegment name) :
    Path.parts (pathBelow directory names) = Path.parts directory ++ names := by
  induction names generalizing directory with
  | nil => exact (List.append_nil _).symm
  | cons name rest ih =>
    rw [List.forall_mem_cons] at h
    show Path.parts (pathBelow (Path.join directory name) rest) = _
    rw [ih h.2, Path.parts_join directory h.1, List.append_assoc, List.singleton_append]

theorem run_isPresent (path : String) (tree : FileTree) :
    (FileStore.isPresent path : StateM FileTree Bool).run tree = ((tree.find? path).isSome, tree) :=
  rfl

/-- The search on a tree finds what is below the place of the directory, and changes nothing. -/
theorem run_projectsBelow (h : tree.IsWellFormed) (hdirectory : tree.find? directory = some .directory)
    (levels : Nat) :
    (projectsBelow levels directory :
        ExceptT Failure (StateM FileTree) (List String)).run.run tree =
      (.ok ((searchBelow tree levels (Path.place directory)).map (pathBelow directory)), tree) := by
  induction levels generalizing directory with
  | zero => rfl
  | succ levels ih =>
    have htools : Path.IsSegment "tools" := by decide
    let found (entry : String × Bool) : List String :=
      (searchEntry tree (Path.place directory)
        (searchBelow tree levels (Path.place directory ++ [entry.1])) entry).map (pathBelow directory)
    rw [projectsBelow, run_bind_of_ok (FileStore.run_attempt_list (FileTree.list_of_find? hdirectory)),
      run_bind_of_ok (@run_mapM_of_ok _ _ _ _ found _ ?_)]
    · show ((Except.ok _ : Except Failure (List String)), tree) = _
      rw [searchBelow, List.map_flatMap]
      rfl
    rintro ⟨name, isDirectory⟩ hmem
    obtain ⟨entry, hentry, rfl⟩ := h.mem_children_iff.mp hmem
    have hname : Path.IsSegment name := h.isSegment_of_mem hentry name (by simp)
    by_cases hkind : entry = .directory
    · subst hkind
      have hfind : tree.find? (Path.join directory name) = some .directory := by
        rw [FileTree.find?_join hname hdirectory, hentry]
      have hplace : Path.place (Path.join directory name) = Path.place directory ++ [name] :=
        Path.place_join directory hname
      have hpresent : tree.find? (toolsDirectory (Path.join directory name))
          = tree.entry? (Path.place directory ++ [name] ++ ["tools"]) := by
        rw [toolsDirectory, FileTree.find?_join htools hfind, hplace]
      simp only [found, decide_true, Bool.not_true, Bool.false_eq_true, if_false, searchEntry]
      rw [run_lift_bind, run_isPresent]
      dsimp only
      rw [hpresent]
      -- A directory with tools is a project, and is not searched any deeper.
      split_ifs
      · rfl
      · rw [ih hfind, hplace, List.map_map]
        rfl
    · simp only [found, hkind, decide_false, Bool.not_false, if_true, searchEntry]
      rfl

/-! ### What the search finds -/

theorem mem_searchEntry {below : List (List String)} {isDirectory : Bool} :
    names ∈ searchEntry tree place below (name, isDirectory) ↔
      isDirectory = true ∧ ∃ rest, names = name :: rest ∧
        if isProjectName name && (tree.entry? (place ++ [name] ++ ["tools"])).isSome then rest = []
        else rest ∈ below := by
  unfold searchEntry
  cases isDirectory with
  | false => simp
  | true =>
    simp only [Bool.not_true, Bool.false_eq_true, if_false, true_and]
    split_ifs
    · simp
    · simp [eq_comm, and_comm]

theorem mem_searchBelow_cons (h : tree.IsWellFormed) :
    name :: rest ∈ searchBelow tree (levels + 1) place ↔
      tree.entry? (place ++ [name]) = some .directory ∧
        (IsProjectAt tree place [name] ∧ rest = [] ∨
          ¬IsProjectAt tree place [name] ∧ rest ∈ searchBelow tree levels (place ++ [name])) := by
  rw [searchBelow, List.mem_flatMap]
  constructor
  · rintro ⟨⟨found, isDirectory⟩, hentry, hmem⟩
    obtain ⟨rfl, more, hcons, hmore⟩ := mem_searchEntry.mp hmem
    obtain ⟨rfl, rfl⟩ := List.cons.inj hcons
    obtain ⟨entry, hentry, hkind⟩ := h.mem_children_iff.mp hentry
    rw [of_decide_eq_true hkind.symm] at hentry
    refine ⟨hentry, ?_⟩
    rw [isProjectAt_singleton]
    simp only [hentry, true_and, ← Bool.and_eq_true]
    split_ifs at hmore with hproject
    · exact .inl ⟨hproject, hmore⟩
    · exact .inr ⟨hproject, hmore⟩
  · rintro ⟨hentry, hmem⟩
    refine ⟨(name, true), h.mem_children_iff.mpr ⟨.directory, hentry, rfl⟩, ?_⟩
    refine mem_searchEntry.mpr ⟨rfl, rest, rfl, ?_⟩
    rw [isProjectAt_singleton] at hmem
    simp only [hentry, true_and, ← Bool.and_eq_true] at hmem
    rcases hmem with ⟨hproject, hrest⟩ | ⟨hproject, hrest⟩
    · rwa [if_pos hproject]
    · rwa [if_neg hproject]

theorem nil_not_mem_searchBelow : [] ∉ searchBelow tree levels place := by
  cases levels with
  | zero => exact List.not_mem_nil
  | succ levels =>
    rw [searchBelow, List.mem_flatMap]
    rintro ⟨⟨name, isDirectory⟩, -, hmem⟩
    obtain ⟨-, rest, hnil, -⟩ := mem_searchEntry.mp hmem
    cases hnil

/-- The search finds the projects within its levels that lie in no other one. -/
theorem mem_searchBelow (h : tree.IsWellFormed) : names ∈ searchBelow tree levels place ↔
    names.length ≤ levels ∧ IsOutermost tree place names := by
  induction levels generalizing place names with
  | zero =>
    refine iff_of_false List.not_mem_nil ?_
    rintro ⟨hlength, hproject, -⟩
    rw [List.length_eq_zero_iff.mp (Nat.le_zero.mp hlength)] at hproject
    exact not_isProjectAt_nil hproject
  | succ levels ih =>
    cases names with
    | nil => exact iff_of_false nil_not_mem_searchBelow fun h => not_isProjectAt_nil h.2.1
    | cons name rest =>
      rw [mem_searchBelow_cons h, isOutermost_cons, ih, List.length_cons, Nat.add_le_add_iff_right]
      constructor
      · rintro ⟨-, ⟨hfirst, rfl⟩ | ⟨hfirst, hlength, hrest⟩⟩
        · exact ⟨Nat.zero_le _, .inl ⟨hfirst, rfl⟩⟩
        · exact ⟨hlength, .inr ⟨hfirst, hrest⟩⟩
      · rintro ⟨hlength, ⟨hfirst, rfl⟩ | ⟨hfirst, hrest⟩⟩
        · exact ⟨hfirst.directory, .inl ⟨hfirst, rfl⟩⟩
        · -- There are directories on the way to what is found.
          have hne : rest ≠ [] := by
            rintro rfl
            exact not_isProjectAt_nil hrest.1
          exact ⟨h.of_append hne hrest.1.directory, .inr ⟨hfirst, hlength, hrest⟩⟩

/-- Nothing is found twice. -/
theorem nodup_searchBelow (h : tree.IsWellFormed) : (searchBelow tree levels place).Nodup := by
  induction levels generalizing place with
  | zero => exact List.nodup_nil
  | succ levels ih =>
    rw [searchBelow, List.nodup_flatMap]
    constructor
    · rintro ⟨name, isDirectory⟩ -
      unfold searchEntry
      dsimp only
      split_ifs
      · exact List.nodup_nil
      · exact List.nodup_singleton _
      · exact ih.map fun _ _ hcons => (List.cons.inj hcons).2
    · -- What is found at entries with different names begins with different names.
      have hnames := h.nodup_names place
      rw [FileTree.names, List.Nodup, List.pairwise_map] at hnames
      refine hnames.imp ?_
      rintro ⟨name, isDirectory⟩ ⟨other, isOther⟩ hne names hname hother
      obtain ⟨-, rest, rfl, -⟩ := mem_searchEntry.mp hname
      obtain ⟨-, more, hcons, -⟩ := mem_searchEntry.mp hother
      exact hne (List.cons.inj hcons).1

/-- It does not matter in which order directories list their entries. -/
theorem searchBelow_perm (h : tree.IsWellFormed) (hperm : other.entries.Perm tree.entries)
    (levels : Nat) (place : Place) :
    (searchBelow other levels place).Perm (searchBelow tree levels place) := by
  rw [List.perm_ext_iff_of_nodup (nodup_searchBelow (h.perm hperm)) (nodup_searchBelow h)]
  intro names
  rw [mem_searchBelow (h.perm hperm), mem_searchBelow h]
  unfold IsOutermost
  simp only [isProjectAt_iff, FileTree.entry?_congr_of_perm h hperm]

theorem parts_of_mem_searchBelow (h : tree.IsWellFormed)
    (hnames : names ∈ searchBelow tree levels place) (directory : String) :
    Path.parts (pathBelow directory names) = Path.parts directory ++ names := by
  have hproject := ((mem_searchBelow h).mp hnames).2.1
  exact parts_pathBelow fun name hname =>
    h.isSegment_of_mem hproject.directory name (List.mem_append_right _ hname)

/-- The paths of what is found are told apart by their parts. -/
theorem nodup_parts_searchBelow (h : tree.IsWellFormed) (levels : Nat) (place : Place)
    (directory : String) :
    (((searchBelow tree levels place).map (pathBelow directory)).map Path.parts).Nodup := by
  have hparts : ((searchBelow tree levels place).map (pathBelow directory)).map Path.parts
      = (searchBelow tree levels place).map (Path.parts directory ++ ·) := by
    rw [List.map_map]
    exact List.map_congr_left fun names hnames => parts_of_mem_searchBelow h hnames directory
  rw [hparts]
  exact (nodup_searchBelow h).map fun _ _ happend => List.append_cancel_left happend

/-- A project that lies in no other one that is found lies in no other one at all. -/
theorem mem_searchBelow_iff_forall_mem (h : tree.IsWellFormed) :
    names ∈ searchBelow tree levels place ↔
      1 ≤ names.length ∧ names.length ≤ levels ∧ IsProjectAt tree place names ∧
        ∀ outer ∈ searchBelow tree levels place, outer <+: names → outer = names := by
  constructor
  · intro hmem
    obtain ⟨hlength, hproject, houtermost⟩ := (mem_searchBelow h).mp hmem
    have hne : names ≠ [] := by
      rintro rfl
      exact not_isProjectAt_nil hproject
    refine ⟨List.length_pos_iff.mpr hne, hlength, hproject, fun outer houter hinside => ?_⟩
    exact houtermost outer hinside ((mem_searchBelow h).mp houter).2.1
  · rintro ⟨-, hlength, hproject, hfound⟩
    obtain ⟨outer, hinside, houtermost⟩ := hproject.exists_outermost
    have houter := (mem_searchBelow h).mpr ⟨hinside.length_le.trans hlength, houtermost⟩
    exact hfound outer houter hinside ▸ houter

/-! ### The projects of a directory -/

/-- A directory with tools is its only project, and the projects of another one are what is found
below it. -/
theorem run_projects_eq (h : tree.IsWellFormed) (hroot : tree.find? root = some .directory) :
    (projects root : ExceptT Failure (StateM FileTree) (List String)).run.run tree =
      (.ok (if (tree.entry? (Path.place root ++ ["tools"])).isSome then [root]
        else ((searchBelow tree searchedLevels (Path.place root)).map (pathBelow root)).mergeSort
          fun a b => Text.notAfter (Path.parts a) (Path.parts b)), tree) := by
  have htools : tree.find? (toolsDirectory root) = tree.entry? (Path.place root ++ ["tools"]) :=
    FileTree.find?_join (by decide) hroot
  rw [projects, run_lift_bind, run_isPresent, htools]
  dsimp only
  split_ifs
  · rfl
  · rw [run_bind_of_ok (run_projectsBelow h hroot searchedLevels)]
    rfl

/-- A directory with tools is its only project.  Of another one the projects are, in order and each
once, the directories one to four levels below it that have the name of a project, and tools, and
lie in no other project; the order in which directories list their entries plays no part. -/
theorem run_projects (h : tree.IsWellFormed) (hroot : tree.find? root = some .directory) :
    let run (tree : FileTree) :=
      (projects root : ExceptT Failure (StateM FileTree) (List String)).run.run tree
    let tools := tree.entry? (Path.place root ++ ["tools"])
    (tools.isSome → run tree = (.ok [root], tree)) ∧
      (tools = none → ∃ found : List (List String),
        run tree = (.ok (found.map (pathBelow root)), tree) ∧
          ((found.map (pathBelow root)).Pairwise fun a b => Path.parts a < Path.parts b) ∧
          ∀ names, names ∈ found ↔
            1 ≤ names.length ∧ names.length ≤ 4 ∧ IsProjectAt tree (Path.place root) names ∧
              ∀ outer ∈ found, outer <+: names → outer = names) ∧
      ∀ other : FileTree, other.entries.Perm tree.entries → (run other).1 = (run tree).1 := by
  intro run tools
  refine ⟨fun htools => ?_, fun htools => ?_, fun other hperm => ?_⟩
  · exact (run_projects_eq h hroot).trans (by rw [if_pos htools])
  · let isBefore (a b : String) : Bool := Text.notAfter (Path.parts a) (Path.parts b)
    let items := searchBelow tree searchedLevels (Path.place root)
    have hsorted := Text.pairwise_mergeSort_of_nodup
      (nodup_parts_searchBelow h searchedLevels (Path.place root) root)
    have hmap : (items.mergeSort fun a b => isBefore (pathBelow root a) (pathBelow root b)).map
        (pathBelow root) = (items.map (pathBelow root)).mergeSort isBefore :=
      List.map_mergeSort fun _ _ _ _ => rfl
    refine ⟨_, ?_, hmap ▸ hsorted, fun names => ?_⟩
    · rw [hmap]
      exact (run_projects_eq h hroot).trans (by rw [if_neg (by simpa using htools)])
    · simp only [List.mem_mergeSort]
      exact mem_searchBelow_iff_forall_mem h
  · have hother : other.find? root = some .directory := by
      rw [FileTree.find?_congr_of_perm h hperm, hroot]
    have hitems := (searchBelow_perm h hperm searchedLevels (Path.place root)).map (pathBelow root)
    have hnodup := nodup_parts_searchBelow (h.perm hperm) searchedLevels (Path.place root) root
    show ((projects root : ExceptT Failure (StateM FileTree) (List String)).run.run other).1
      = ((projects root : ExceptT Failure (StateM FileTree) (List String)).run.run tree).1
    rw [run_projects_eq h hroot, run_projects_eq (h.perm hperm) hother,
      FileTree.entry?_congr_of_perm h hperm,
      Text.mergeSort_notAfter_congr hnodup hitems]

/-- Projects one, two, four and five levels below a directory, and one in another one. -/
def groupedProjects : FileTree :=
  ⟨[[], ["a"], ["a", "b"], ["a", "b", "c"], ["a", "b", "c", "mcp_four"],
    ["a", "b", "c", "mcp_four", "tools"], ["a", "b", "c", "d"], ["a", "b", "c", "d", "mcp_five"],
    ["a", "b", "c", "d", "mcp_five", "tools"], ["mcp_all"], ["mcp_all", "mcp_two"],
    ["mcp_all", "mcp_two", "tools"], ["mcp_one"], ["mcp_one", "tools"], ["mcp_one", "mcp_inner"],
    ["mcp_one", "mcp_inner", "tools"]].map fun names => ("work" :: names, .directory)⟩

/-- The same projects are found when the entries are listed the other way round. -/
theorem run_projects_grouped :
    let run (tree : FileTree) :=
      (projects "work" : ExceptT Failure (StateM FileTree) (List String)).run.run tree
    let found := ["work/a/b/c/mcp_four", "work/mcp_all/mcp_two", "work/mcp_one"]
    groupedProjects.IsWellFormed ∧ groupedProjects.find? "work" = some .directory ∧
      (run groupedProjects).1 = .ok found ∧
      (run ⟨groupedProjects.entries.reverse⟩).1 = .ok found := by
  intro run found
  have h : groupedProjects.IsWellFormed := by decide
  have hroot : groupedProjects.find? "work" = some .directory := rfl
  have htools : groupedProjects.entry? (Path.place "work" ++ ["tools"]) = none := rfl
  have hsearch : searchBelow groupedProjects searchedLevels (Path.place "work")
      = [["a", "b", "c", "mcp_four"], ["mcp_all", "mcp_two"], ["mcp_one"]] := rfl
  have hrun := run_projects_eq h hroot
  rw [htools, if_neg (by decide), hsearch, List.mergeSort_of_pairwise (by decide +kernel)] at hrun
  have hfound : (run groupedProjects).1 = .ok found := congrArg Prod.fst hrun
  exact ⟨h, hroot, hfound, ((run_projects h hroot).2.2 _ (List.reverse_perm _)).trans hfound⟩

end ApiTools.Audit
