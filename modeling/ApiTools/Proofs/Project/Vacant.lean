import ApiTools.Proofs.Files.Listing
import ApiTools.Proofs.Project.Written
import Mathlib.Data.List.Count

/-!
# Projects in vacant directories

A project that is written where nothing was before is there alone: its directory of tools holds the
modules of tools and the marker of their package, each once, and nothing else
(`ProjectPlan.names_toolsPlace`).  What may stand there besides is told from the single changes by
`Writer.keeps_foldlM`.  The modules stand there, as does the server in its place, with the contents
that they were filled in with and formatted to (`ProjectPlan.stands_of_isSingle`): only the files of
the models can have a place in common.
-/

namespace ApiTools

open FileTree FileStore

/-- Does nothing stand below the place of the directory, and does the way there not lead through
what is below it? -/
structure FileTree.IsVacant (tree : FileTree) (directory : String) : Prop where
  below : ∀ names, names ≠ [] → tree.entry? (Path.place directory ++ names) = none
  way : ∀ spot ∈ ways [] (Path.parts directory), Path.place directory <+: spot →
    spot = Path.place directory

/-- A directory in which there is nothing is vacant. -/
theorem FileTree.isVacant_of_empty {tree : FileTree} {directory : String}
    (hway : tree.AreDirectories (ways [] (Path.parts directory)))
    (hbelow : ∀ names, names ≠ [] → tree.entry? (Path.place directory ++ names) = none) :
    tree.IsVacant directory := by
  refine ⟨hbelow, ?_⟩
  rintro spot hspot ⟨names, rfl⟩
  by_contra hne
  have hnames : names ≠ [] := by
    rintro rfl
    exact hne (List.append_nil _)
  have hdirectory := hway _ hspot
  rw [hbelow names hnames] at hdirectory
  cases hdirectory

namespace ProjectPlan

variable {plan : ProjectPlan} {writer : Writer (StateM FileTree)} {report after : EmitReport}
  {artifact : Artifact} {tree tree' : FileTree} {Same : String → String → Prop}
  {names directories : List String} {name base : String}

/-! ### The directory of the tools -/

/-- The directory of the modules of tools. -/
def toolsPlace (plan : ProjectPlan) : Place :=
  Path.place plan.directory ++ [plan.names.package, "tools"]

/-- The files of the modules of tools, and the marker of their package. -/
def toolFileNames (plan : ProjectPlan) : List String :=
  moduleFileNames (plan.modules.map ToolModule.stem)

theorem length_le_of_mem_fileNames (h : names ∈ plan.fileNames) : names.length ≤ 3 := by
  unfold fileNames at h
  rw [List.mem_append, List.mem_append, List.mem_append] at h
  rcases h with ((h | h) | h) | h
  · exact (length_of_mem_namesIn h).le
  · exact (length_of_mem_namesIn h).le
  · exact (length_of_mem_namesIn h).le
  · exact (length_of_mem_outerNames h).le

/-- Only the modules and their marker lie in the directory of the tools. -/
theorem mem_toolFileNames (h : [plan.names.package, "tools", name] ∈ plan.fileNames) :
    name ∈ plan.toolFileNames := by
  have hother : ∀ (directory : String) (files : List String), directory ≠ "tools" →
      [plan.names.package, "tools", name] ∉ plan.namesIn directory files := by
    intro directory files hne hmem
    obtain ⟨file, -, heq⟩ := List.mem_map.mp hmem
    simp [hne] at heq
  unfold fileNames at h
  rw [List.mem_append, List.mem_append, List.mem_append] at h
  rcases h with ((h | h) | h) | h
  · exact absurd h (hother _ _ (by decide))
  · exact absurd h (hother _ _ (by decide))
  · obtain ⟨file, hfile, heq⟩ := List.mem_map.mp h
    have heq : file = name := by simpa using heq
    rwa [← heq]
  · exact absurd (length_of_mem_outerNames h) (by simp)

/-- Do only the files of the tools stand in their directory, each listed once? -/
structure HasToolsOnly (plan : ProjectPlan) (tree : FileTree) : Prop where
  names : ∀ name ∈ tree.names plan.toolsPlace, name ∈ plan.toolFileNames
  nodup : (tree.names plan.toolsPlace).Nodup

theorem hasToolsOnly_of_isVacant (h : tree.IsVacant plan.directory) : plan.HasToolsOnly tree := by
  have hnone : tree.names plan.toolsPlace = [] := by
    rw [List.eq_nil_iff_forall_not_mem]
    intro name hmem
    rw [mem_names, toolsPlace, List.append_assoc, h.below _ (by simp)] at hmem
    cases hmem
  refine ⟨?_, ?_⟩
  · rw [hnone]
    simp
  · rw [hnone]
    exact List.nodup_nil

/-- A change to a place keeps this, where no other file of the directory is at the place. -/
theorem HasToolsOnly.set {spot : Place} (h : plan.HasToolsOnly tree)
    (hspot : ∀ name, spot = plan.toolsPlace ++ [name] → name ∈ plan.toolFileNames)
    (entry : FileEntry) : plan.HasToolsOnly (tree.set spot entry) := by
  refine ⟨?_, nodup_names_set h.nodup spot entry⟩
  intro name hname
  rcases mem_names_of_set hname with hname | hname
  · exact h.names name hname
  · exact hspot name hname

/-- The files of the project keep this. -/
theorem isKept_hasToolsOnly (h : plan.IsNamed)
    (hway : ∀ spot ∈ ways [] (Path.parts plan.directory), Path.place plan.directory <+: spot →
      spot = Path.place plan.directory)
    (hnames : directories ++ [name] ∈ plan.fileNames) :
    Writer.IsKept plan.HasToolsOnly (plan.pathOf directories) name := by
  have hsegments := isSegment_of_mem_fileNames h hnames
  rw [List.forall_mem_append, List.forall_mem_singleton] at hsegments
  have hlength := length_le_of_mem_fileNames hnames
  rw [List.length_append, List.length_singleton] at hlength
  refine ⟨?_, ?_, ?_⟩
  · intro t spot hspot _ ht
    apply ht.set
    -- The directories of a project lie less deep than the files of its tools.
    rintro file rfl
    exfalso
    rcases mem_ways_pathOf hsegments.1 hspot with hspot | ⟨front, directory, hfront, heq⟩
    · rw [toolsPlace, List.append_assoc] at hspot
      have hself := hway _ hspot (List.prefix_append _ _)
      simp at hself
    · have hdepth := congrArg List.length heq
      have hle := hfront.length_le
      simp only [toolsPlace, List.length_append, List.length_cons, List.length_nil] at hdepth hle
      omega
  · intro t _ ht
    have hsublist := names_erase_sublist t (Path.place (plan.pathOf directories) ++
      [stagingName name]) plan.toolsPlace
    exact ⟨fun file hfile => ht.names file (hsublist.subset hfile), hsublist.nodup ht.nodup⟩
  · intro t content _ ht
    apply ht.set
    intro file hfile
    rw [place_pathOf hsegments.1, toolsPlace, List.append_assoc, List.append_assoc] at hfile
    rw [List.append_cancel_left hfile] at hnames
    exact mem_toolFileNames hnames

theorem hasToolsOnly_emit (h : plan.IsNamed) (hvacant : tree.IsVacant plan.directory)
    (hformat : writer.FormatsWithin Same)
    (hrun : (writer.emit plan).run.run tree = (.ok after, tree')) : plan.HasToolsOnly tree' := by
  have hfiles : ∀ artifact ∈ plan.artifacts, ∃ base name, artifact.IsAt base name ∧
      Writer.IsKept plan.HasToolsOnly base name := by
    intro artifact hartifact
    obtain ⟨directories, name, hnames, -, -, hat⟩ := exists_isAt h hartifact
    exact ⟨_, name, hat, isKept_hasToolsOnly h hvacant.way hnames⟩
  have hkept := Writer.keeps_foldlM hformat hfiles (hasToolsOnly_of_isVacant hvacant) (.start plan)
  change plan.HasToolsOnly ((writer.emit plan).run.run tree).2 at hkept
  rwa [hrun] at hkept

/-! ### Files that are alone in their places -/

/-- Only the names of models can lead to two files. -/
theorem count_fileNames_le_one (h : plan.IsNamed)
    (hmodels : ∀ file, names ≠ [plan.names.package, "models", file]) :
    plan.fileNames.count names ≤ 1 := by
  -- Without schemas the names are distinct, and no others are missing then.
  let bare : ProjectPlan := { plan with spec := ⟨.null⟩ }
  have hnamed : bare.IsNamed := ⟨h.name, h.stems, h.nodup_stems⟩
  have hbare : bare.fileNames.Nodup :=
    (nodup_fileNames hnamed).mpr (List.nodup_singleton "base")
  have hnone : ∀ files, (plan.namesIn "models" files).count names = 0 := by
    intro files
    rw [List.count_eq_zero]
    intro hmem
    obtain ⟨file, -, heq⟩ := List.mem_map.mp hmem
    exact hmodels file heq.symm
  have hcount : plan.fileNames.count names ≤ bare.fileNames.count names := by
    show (_ ++ _ ++ _ ++ plan.outerNames).count names ≤ (_ ++ _ ++ _ ++ plan.outerNames).count names
    simp only [List.count_append, hnone]
    exact Nat.add_le_add_right (Nat.add_le_add_right (Nat.le_add_right _ _) _) _
  exact hcount.trans (List.nodup_iff_count_le_one.mp hbare names)

/-- A file lies where its names say. -/
theorem isAt_of_path (h : plan.IsNamed) (hnames : directories ++ [name] ∈ plan.fileNames)
    (hpath : artifact.path = plan.pathOf (directories ++ [name])) :
    artifact.IsAt (plan.pathOf directories) name := by
  obtain ⟨front, last, heq, -, hlast⟩ := exists_of_mem_fileNames hnames
  obtain ⟨-, hname⟩ := List.append_inj' heq rfl
  obtain rfl : name = last := (List.cons.inj hname).1
  refine ⟨?_, isSegment_of_mem_fileNames h hnames name (by simp), plain_of_getLast? hlast⟩
  rw [hpath, pathOf_concat]

/-- No later file goes to a place to which one of the names leads. -/
theorem place_ne_of_append {front rest : List Artifact} (h : plan.IsNamed)
    (hmodels : ∀ file, names ≠ [plan.names.package, "models", file])
    (hsplit : plan.artifacts = front ++ artifact :: rest)
    (hplace : Path.place artifact.path = Path.place plan.directory ++ names) :
    ∀ other ∈ rest, Path.place artifact.path ≠ Path.place other.path := by
  have hplaces := congrArg (List.count (Path.place artifact.path)) (map_place_artifacts h)
  have hcount : (plan.fileNames.map (Path.place plan.directory ++ ·)).count
      (Path.place artifact.path) = plan.fileNames.count names := by
    rw [hplace]
    exact List.count_map_of_injective _ _ (List.append_right_injective _) _
  have hsingle := count_fileNames_le_one h hmodels
  rw [hcount, hsplit, List.map_append, List.map_cons, List.count_append,
    List.count_cons_self] at hplaces
  intro other hother heq
  have hpos : 0 < (rest.map (Path.place ·.path)).count (Path.place artifact.path) := by
    rw [List.count_pos_iff, heq]
    exact List.mem_map_of_mem hother
  omega

/-- An essential file that is no model stands in its place, with the content that it was filled in
with and formatted to. -/
theorem stands_of_isSingle (h : plan.IsNamed) (hformat : writer.FormatsWithin Same)
    (hdry : writer.dryRun = false)
    (hrun : (writer.emit plan).run.run tree = (.ok after, tree'))
    (hartifact : artifact ∈ plan.artifacts) (hessential : artifact.isEssential = true)
    (hpath : artifact.path = plan.pathOf (directories ++ [name]))
    (hnames : directories ++ [name] ∈ plan.fileNames)
    (hmodels : ∀ file, directories ++ [name] ≠ [plan.names.package, "models", file]) :
    ∃ content content',
      Template.renderNamed artifact.template.text (.object artifact.values) = .ok content ∧
      Same content content' ∧ Writer.Stands tree' (plan.pathOf directories) name content' := by
  have hat := isAt_of_path h hnames hpath
  have hplace : Path.place artifact.path = Path.place plan.directory ++ (directories ++ [name]) := by
    rw [hpath, place_pathOf (isSegment_of_mem_fileNames h hnames)]
  obtain ⟨front, rest, hsplit⟩ := List.append_of_mem hartifact
  have hapart := place_ne_of_append h hmodels hsplit hplace
  unfold Writer.emit at hrun
  rw [hsplit] at hrun
  -- It stays as it was written, because no file after it goes to its place.
  refine Writer.stands_of_isEssential hformat hdry hessential hat (fun other hother => ?_) hrun
  have hmem : other ∈ plan.artifacts := by
    rw [hsplit]
    exact List.mem_append_right _ (List.mem_cons_of_mem _ hother)
  obtain ⟨directories', name', -, -, -, hother'⟩ := exists_isAt h hmem
  refine ⟨_, name', hother', ?_⟩
  have hne := hapart other hother
  rwa [hat.path, hother'.path, Path.place_join _ hat.segment, Path.place_join _ hother'.segment]
    at hne

/-! ### The files of the tools -/

theorem isEssential_of_mem_toolFiles (h : artifact ∈ plan.toolFiles) :
    artifact.isEssential = true := by
  have hmodules : ∀ (modules : List ToolModule) (written : List (Option String)),
      ∀ artifact ∈ plan.moduleFilesFrom modules written, artifact.isEssential = true := by
    intro modules
    induction modules with
    | nil => exact fun written artifact hmem => absurd hmem List.not_mem_nil
    | cons module rest ih =>
      intro written
      rw [moduleFilesFrom, List.forall_mem_cons]
      exact ⟨rfl, ih _⟩
  rcases List.mem_append.mp h with h | h
  · exact hmodules _ _ artifact h
  · rw [List.mem_singleton.mp h]
    rfl

theorem nodup_toolFileNames (h : plan.IsNamed) : plan.toolFileNames.Nodup := by
  refine (nodup_moduleFileNames fun stem hstem => ?_).mpr h.nodup_stems
  obtain ⟨module, hmodule, rfl⟩ := List.mem_map.mp hstem
  exact h.stems module hmodule

theorem mem_fileNames_of_mem_toolFileNames (h : name ∈ plan.toolFileNames) :
    [plan.names.package, "tools"] ++ [name] ∈ plan.fileNames := by
  have hin : [plan.names.package, "tools", name] ∈ plan.namesIn "tools" plan.toolFileNames :=
    List.mem_map_of_mem h
  unfold fileNames
  rw [List.mem_append, List.mem_append]
  exact .inl (.inr hin)

variable (h : plan.IsNamed) (hformat : writer.FormatsWithin Same) (hdry : writer.dryRun = false)
  (hrun : (writer.emit plan).run.run tree = (.ok after, tree'))

include h hformat hdry hrun

/-- The files of the tools stand in their directory. -/
theorem stands_of_mem_toolFileNames (hname : name ∈ plan.toolFileNames) :
    ∃ content, Writer.Stands tree' (plan.pathOf [plan.names.package, "tools"]) name content := by
  have hpath : plan.pathOf ([plan.names.package, "tools"] ++ [name])
      ∈ plan.toolFiles.map Artifact.path := by
    rw [map_path_toolFiles]
    exact List.mem_map_of_mem (List.mem_map_of_mem hname)
  obtain ⟨artifact, hartifact, hpath⟩ := List.mem_map.mp hpath
  have hmem : artifact ∈ plan.artifacts := by
    unfold artifacts
    simp [hartifact]
  obtain ⟨-, content, -, -, hstands⟩ := stands_of_isSingle h hformat hdry hrun hmem
    (isEssential_of_mem_toolFiles hartifact) hpath (mem_fileNames_of_mem_toolFileNames hname)
    (by simp)
  exact ⟨content, hstands⟩

/-- The directory of the tools of a project that is written to a vacant directory holds the modules
of tools and their marker, and nothing else. -/
theorem names_toolsPlace (hvacant : tree.IsVacant plan.directory) :
    (tree'.names plan.toolsPlace).Perm plan.toolFileNames := by
  have honly := hasToolsOnly_emit h hvacant hformat hrun
  rw [List.perm_ext_iff_of_nodup honly.nodup (nodup_toolFileNames h)]
  intro name
  constructor
  · exact honly.names name
  · intro hname
    obtain ⟨content, hstands⟩ := stands_of_mem_toolFileNames h hformat hdry hrun hname
    have hsegments := isSegment_of_mem_fileNames h (mem_fileNames_of_mem_toolFileNames hname)
    rw [List.forall_mem_append] at hsegments
    have hfile := hstands.file
    rw [place_pathOf hsegments.1] at hfile
    rw [mem_names]
    exact Option.isSome_of_mem hfile

end ProjectPlan

end ApiTools
