import ApiTools.Proofs.Files.Path
import ApiTools.Proofs.Naming.Names
import ApiTools.Proofs.Project.Registrations

/-!
# Where the files of a project go

`ProjectPlan.fileNames` lists the names that lead from the directory of a project to its files.  The
packages, the modules of tools and the files that every project has keep out of each other's way;
only the modules of the models are named by stems that may coincide, with each other and with that
of the base classes.  So the files of a project are told apart by their paths exactly when these
stems are told apart (`Enhancer.nodup_files_emit`).
-/

namespace ApiTools

/-! ### Names of files -/

namespace Naming.IsName

variable {s : String}

theorem no_slash (h : IsName s) : '/' ∉ s.toList := h.not_mem (by decide)

/-- A name with an ending is the name of a file. -/
theorem isSegment_append (h : IsName s) {ending : String} (hending : '/' ∉ ending.toList) :
    Path.IsSegment (s ++ ending) := by
  obtain ⟨c, rest, hhead, hletter⟩ := h.head
  refine Path.isSegment_of_head (c := c) ?_ ?_ ?_
  · rw [String.toList_append, hhead]
    rfl
  · rintro rfl
    exact absurd hletter (by decide)
  · rw [String.toList_append, List.mem_append, not_or]
    exact ⟨h.no_slash, hending⟩

theorem append_ne_init (h : IsName s) (ending : String) : s ++ ending ≠ "__init__.py" := by
  intro heq
  obtain ⟨c, rest, hhead, hletter⟩ := h.head
  have hchars := congrArg String.toList heq
  rw [String.toList_append, hhead] at hchars
  cases (List.cons.inj hchars).1
  exact absurd hletter (by decide)

/-- The ending of the name of a module is what stands after its last point. -/
theorem extension?_append_py (h : IsName s) : Path.extension? (s ++ ".py") = some "py" := by
  obtain ⟨c, rest, hhead, -⟩ := h.head
  have hreverse : (s ++ ".py").toList.reverse = 'y' :: 'p' :: '.' :: s.toList.reverse := by
    rw [String.toList_append, List.reverse_append]
    rfl
  -- The last point is that of the ending, and the stem before it is not empty.
  have hcut : ('y' :: 'p' :: '.' :: s.toList.reverse).dropWhile (· ≠ '.')
      = '.' :: s.toList.reverse := rfl
  obtain ⟨d, before, hbefore⟩ := List.exists_cons_of_ne_nil (l := s.toList.reverse) (by
    rw [hhead]
    simp)
  unfold Path.extension?
  rw [Path.fileName?_of_isSegment (h.isSegment_append (by decide)), Option.bind_some]
  unfold Path.splitName
  dsimp only
  rw [hreverse, hcut, hbefore]
  rfl

end Naming.IsName

theorem ToolModule.isName_stemOf (path : String) : Naming.IsName (stemOf path) :=
  Naming.isName_stem _ (by decide)

theorem ProjectPlan.isName_modelStem (schemaName : String) : Naming.IsName (modelStem schemaName) :=
  Naming.isName_stem _ (by decide)

namespace ProjectNames

theorem isName_name (spec : Spec) (settings : Settings) :
    Naming.IsName (ofSpec spec settings).name := by
  have hlead : Naming.IsName "api" := by decide
  unfold ofSpec
  dsimp only
  exact Naming.isName_stem _ hlead

variable {names : ProjectNames}

theorem isSegment_lead (h : Naming.IsName names.name) {lead : String} {c : Char}
    (hlead : lead.toList.head? = some c) (hpoint : c ≠ '.') (hslash : '/' ∉ lead.toList) :
    Path.IsSegment (lead ++ names.name) := by
  refine Path.isSegment_of_head (c := c) ?_ hpoint ?_
  · rw [String.toList_append, List.head?_append, hlead, Option.some_or]
  · rw [String.toList_append, List.mem_append, not_or]
    exact ⟨hslash, h.no_slash⟩

theorem isSegment_package (h : Naming.IsName names.name) : Path.IsSegment names.package :=
  isSegment_lead h (c := 'm') rfl (by decide) (by decide)

theorem isSegment_agentPackage (h : Naming.IsName names.name) :
    Path.IsSegment names.agentPackage :=
  isSegment_lead h (c := 'a') rfl (by decide) (by decide)

theorem package_ne_agentPackage : names.package ≠ names.agentPackage := by
  intro h
  have hchars := congrArg String.toList h
  unfold package agentPackage at hchars
  rw [String.toList_append, String.toList_append] at hchars
  cases hchars

end ProjectNames

/-! ### The files of a plan -/

namespace ProjectPlan

variable (plan : ProjectPlan)

/-- The stems of the modules of the models. -/
def modelStems : List String := "base" :: plan.schemas.map fun (name, _) => modelStem name

/-- The names that lead to files in a directory of the server package. -/
def namesIn (directory : String) (files : List String) : List (List String) :=
  files.map fun file => [plan.names.package, directory, file]

/-- The names of modules with the stems, and of the marker of their package. -/
def moduleFileNames (stems : List String) : List String :=
  stems.map (· ++ ".py") ++ ["__init__.py"]

/-- The names that lead to the files which lie in no directory of the server package. -/
def outerNames : List (List String) :=
  [[plan.names.package, "server.py"], [plan.names.package, "__init__.py"]]
    ++ ["pyproject.toml"]
    :: (if plan.settings.generateAgent then
          [[plan.names.agentPackage, "__init__.py"], [plan.names.agentPackage, "prompts.py"]]
        else [[".env.example"], ["README.md"]])

/-- The names that lead from the directory of the project to its files. -/
def fileNames : List (List String) :=
  plan.namesIn "api" ["client.py", "__init__.py"]
    ++ plan.namesIn "models" ("base.py" :: moduleFileNames (plan.schemas.map (modelStem ·.1)))
    ++ plan.namesIn "tools" (moduleFileNames (plan.modules.map ToolModule.stem))
    ++ plan.outerNames

/-- The path that names lead to from the directory of the project. -/
def pathOf (names : List String) : String := names.foldl Path.join plan.directory

@[simp] theorem path_packageFile (parts : List String) (template : TemplateName)
    (values : List (String × Document)) :
    (plan.packageFile parts template values).path = plan.pathOf (plan.names.package :: parts) := rfl

@[simp] theorem path_modelFile (name : String) (schema : Document) :
    (plan.modelFile name schema).path
      = plan.pathOf [plan.names.package, "models", modelStem name ++ ".py"] :=
  plan.path_packageFile _ _ _

@[simp] theorem path_moduleFile (module : ToolModule) (written : List (Option String)) :
    (plan.moduleFile module written).path
      = plan.pathOf [plan.names.package, "tools", module.stem ++ ".py"] := rfl

theorem map_path_moduleFilesFrom (modules : List ToolModule) (written : List (Option String)) :
    (plan.moduleFilesFrom modules written).map Artifact.path
      = (plan.namesIn "tools" (modules.map (·.stem ++ ".py"))).map plan.pathOf := by
  induction modules generalizing written with
  | nil => rfl
  | cons module rest ih =>
    rw [moduleFilesFrom, List.map_cons, ih, path_moduleFile]
    rfl

theorem map_path_clientFiles : plan.clientFiles.map Artifact.path
    = (plan.namesIn "api" ["client.py", "__init__.py"]).map plan.pathOf := by
  simp only [clientFiles, namesIn, List.map_cons, List.map_nil, path_packageFile]

theorem map_path_modelFiles : plan.modelFiles.map Artifact.path
    = (plan.namesIn "models" ("base.py" :: moduleFileNames (plan.schemas.map (modelStem ·.1)))).map
      plan.pathOf := by
  simp only [modelFiles, namesIn, moduleFileNames, List.map_append, List.map_cons, List.map_nil,
    List.map_map, path_packageFile, path_modelFile, List.cons_append, List.nil_append,
    Function.comp_def]

theorem map_path_toolFiles : plan.toolFiles.map Artifact.path
    = (plan.namesIn "tools" (moduleFileNames (plan.modules.map ToolModule.stem))).map
      plan.pathOf := by
  simp only [toolFiles, map_path_moduleFilesFrom, namesIn, moduleFileNames, List.map_append,
    List.map_cons, List.map_nil, List.map_map, path_packageFile, Function.comp_def]

theorem map_path_serverFiles : plan.serverFiles.map Artifact.path
    = [[plan.names.package, "server.py"], [plan.names.package, "__init__.py"]].map
      plan.pathOf := by
  simp only [serverFiles, List.map_cons, List.map_nil, path_packageFile]

/-- The files of a plan lie where the names lead. -/
theorem map_path_artifacts : plan.artifacts.map Artifact.path = plan.fileNames.map plan.pathOf := by
  unfold artifacts fileNames outerNames
  simp only [List.map_append, map_path_clientFiles, map_path_modelFiles, map_path_toolFiles,
    map_path_serverFiles, List.append_assoc]
  congr 4
  cases plan.settings.generateAgent <;> rfl

/-! ### Distinct names -/

variable {plan}

/-- The names that a plan is made with. -/
structure IsNamed (plan : ProjectPlan) : Prop where
  name : Naming.IsName plan.names.name
  stems : ∀ module ∈ plan.modules, Naming.IsName module.stem
  nodup_stems : (plan.modules.map ToolModule.stem).Nodup

theorem isNamed_of_make {spec : Spec} {settings : Settings} {assistant? : Option Assistant}
    {asked : Nat} {directory : String}
    (h : make spec settings assistant? asked directory = some plan) : plan.IsNamed := by
  obtain ⟨tools, -, rfl⟩ := Option.map_eq_some_iff.mp h
  have hstems := (ToolModule.isGrouped_group tools).stems
  refine ⟨ProjectNames.isName_name spec settings, ?_, ?_⟩
  · intro module hmodule
    have hmem : module.stem ∈ (ToolModule.group tools).map ToolModule.stem :=
      List.mem_map_of_mem hmodule
    rw [hstems, List.mem_eraseDups] at hmem
    obtain ⟨tool, -, hstem⟩ := List.mem_map.mp hmem
    rw [← hstem]
    exact ToolModule.isName_stemOf _
  · rw [hstems]
    exact nodup_eraseDups _

theorem nodup_moduleFileNames {stems : List String} (h : ∀ stem ∈ stems, Naming.IsName stem) :
    (moduleFileNames stems).Nodup ↔ stems.Nodup := by
  have hinjective : Function.Injective fun stem : String => stem ++ ".py" := by
    intro s t heq
    have hchars := congrArg String.toList heq
    rw [String.toList_append, String.toList_append] at hchars
    exact String.toList_inj.mp (List.append_cancel_right hchars)
  unfold moduleFileNames
  rw [List.nodup_append, List.nodup_map_iff hinjective]
  refine ⟨And.left, fun hstems => ⟨hstems, List.nodup_singleton _, ?_⟩⟩
  intro file hfile marker hmarker
  obtain ⟨stem, hstem, rfl⟩ := List.mem_map.mp hfile
  rw [List.mem_singleton.mp hmarker]
  exact (h stem hstem).append_ne_init _

theorem isName_of_mem_modelStems {stem : String} (h : stem ∈ plan.modelStems) :
    Naming.IsName stem := by
  rcases List.mem_cons.mp h with rfl | h
  · show Naming.IsName "base"
    decide
  · obtain ⟨schema, -, rfl⟩ := List.mem_map.mp h
    exact isName_modelStem _

theorem nodup_namesIn {directory : String} {files : List String} :
    (plan.namesIn directory files).Nodup ↔ files.Nodup :=
  List.nodup_map_iff fun file other heq => by simpa using heq

/-- Files in two directories of the package are different. -/
theorem ne_of_mem_namesIn {first second : String} (h : first ≠ second) {files others : List String}
    {names names' : List String} (hnames : names ∈ plan.namesIn first files)
    (hother : names' ∈ plan.namesIn second others) : names ≠ names' := by
  obtain ⟨file, -, rfl⟩ := List.mem_map.mp hnames
  obtain ⟨file', -, rfl⟩ := List.mem_map.mp hother
  simp [h]

theorem length_of_mem_namesIn {directory : String} {files names : List String}
    (h : names ∈ plan.namesIn directory files) : names.length = 3 := by
  obtain ⟨file, -, rfl⟩ := List.mem_map.mp h
  rfl

theorem length_of_mem_outerNames {names : List String} (h : names ∈ plan.outerNames) :
    names.length < 3 := by
  unfold outerNames at h
  revert h names
  cases plan.settings.generateAgent <;> simp

variable (plan) in
theorem nodup_outerNames : plan.outerNames.Nodup := by
  unfold outerNames
  cases plan.settings.generateAgent <;> simp [ProjectNames.package_ne_agentPackage]

/-- Only the stems of the models can make two files of a plan coincide. -/
theorem nodup_fileNames (h : plan.IsNamed) : plan.fileNames.Nodup ↔ plan.modelStems.Nodup := by
  have hmodels : (plan.namesIn "models"
      ("base.py" :: moduleFileNames (plan.schemas.map (modelStem ·.1)))).Nodup
        ↔ plan.modelStems.Nodup :=
    nodup_namesIn.trans (nodup_moduleFileNames fun _ => isName_of_mem_modelStems)
  have htools : (plan.namesIn "tools"
      (moduleFileNames (plan.modules.map ToolModule.stem))).Nodup := by
    rw [nodup_namesIn, nodup_moduleFileNames]
    · exact h.nodup_stems
    · intro stem hstem
      obtain ⟨module, hmodule, rfl⟩ := List.mem_map.mp hstem
      exact h.stems module hmodule
  have hclient : (plan.namesIn "api" ["client.py", "__init__.py"]).Nodup := by
    rw [nodup_namesIn]
    decide
  constructor
  · intro hall
    rw [← hmodels]
    unfold fileNames at hall
    simp only [List.nodup_append] at hall
    exact hall.1.1.2.1
  · intro hstems
    rw [← hmodels] at hstems
    unfold fileNames
    rw [List.nodup_append, List.nodup_append, List.nodup_append]
    refine ⟨⟨⟨hclient, hstems, ?_⟩, htools, ?_⟩, plan.nodup_outerNames, ?_⟩
    -- Files of the three directories differ in the directory, and the other ones lie less deep.
    · intro names hnames names' hother
      exact ne_of_mem_namesIn (by decide) hnames hother
    · intro names hnames names' hother
      rcases List.mem_append.mp hnames with hnames | hnames
      · exact ne_of_mem_namesIn (by decide) hnames hother
      · exact ne_of_mem_namesIn (by decide) hnames hother
    · rintro names hnames names' hother rfl
      have hshort := length_of_mem_outerNames hother
      have hlong : names.length = 3 := by
        rw [List.mem_append, List.mem_append] at hnames
        rcases hnames with (hnames | hnames) | hnames
        · exact length_of_mem_namesIn hnames
        · exact length_of_mem_namesIn hnames
        · exact length_of_mem_namesIn hnames
      omega

/-! ### Places -/

theorem isSegment_of_mem_outerNames (h : plan.IsNamed) {names : List String}
    (hnames : names ∈ plan.outerNames) : ∀ name ∈ names, Path.IsSegment name := by
  have hpackage := ProjectNames.isSegment_package h.name
  have hagent := ProjectNames.isSegment_agentPackage h.name
  have hfixed : Path.IsSegment "server.py" ∧ Path.IsSegment "__init__.py" ∧
      Path.IsSegment "pyproject.toml" ∧ Path.IsSegment "prompts.py" ∧
      Path.IsSegment ".env.example" ∧ Path.IsSegment "README.md" := by decide
  unfold outerNames at hnames
  revert hnames names
  cases plan.settings.generateAgent <;> simp [hpackage, hagent, hfixed]

theorem isSegment_of_mem_fileNames (h : plan.IsNamed) {names : List String}
    (hnames : names ∈ plan.fileNames) : ∀ name ∈ names, Path.IsSegment name := by
  have hpackage := ProjectNames.isSegment_package h.name
  have hmodule : ∀ stems : List String, (∀ stem ∈ stems, Naming.IsName stem) →
      ∀ file ∈ moduleFileNames stems, Path.IsSegment file := by
    intro stems hstems file hfile
    rcases List.mem_append.mp hfile with hfile | hfile
    · obtain ⟨stem, hstem, rfl⟩ := List.mem_map.mp hfile
      exact (hstems stem hstem).isSegment_append (by decide)
    · rw [List.mem_singleton.mp hfile]
      decide
  have hin : ∀ (directory : String) (files : List String), Path.IsSegment directory →
      (∀ file ∈ files, Path.IsSegment file) → names ∈ plan.namesIn directory files →
      ∀ name ∈ names, Path.IsSegment name := by
    intro directory files hdirectory hfiles hmem
    obtain ⟨file, hfile, rfl⟩ := List.mem_map.mp hmem
    simpa using ⟨hpackage, hdirectory, hfiles file hfile⟩
  unfold fileNames at hnames
  rw [List.mem_append, List.mem_append, List.mem_append] at hnames
  rcases hnames with ((hnames | hnames) | hnames) | hnames
  · exact hin _ _ (by decide) (by decide) hnames
  · exact hin _ _ (by decide) (hmodule plan.modelStems fun _ => isName_of_mem_modelStems) hnames
  · refine hin _ _ (by decide) (hmodule _ fun stem hstem => ?_) hnames
    obtain ⟨module, hmem, rfl⟩ := List.mem_map.mp hstem
    exact h.stems module hmem
  · exact isSegment_of_mem_outerNames h hnames

theorem place_pathOf {names : List String} (h : ∀ name ∈ names, Path.IsSegment name) :
    Path.place (plan.pathOf names) = Path.place plan.directory ++ names := by
  unfold pathOf
  generalize plan.directory = base
  induction names generalizing base with
  | nil => exact (List.append_nil _).symm
  | cons name rest ih =>
    rw [List.forall_mem_cons] at h
    rw [List.foldl_cons, ih h.2, Path.place_join base h.1, List.append_assoc]
    rfl

/-- The files of a plan lie below the directory of the project, where their names say. -/
theorem map_place_artifacts (h : plan.IsNamed) :
    plan.artifacts.map (Path.place ·.path) = plan.fileNames.map (Path.place plan.directory ++ ·) := by
  have hpaths := congrArg (List.map Path.place) plan.map_path_artifacts
  rw [List.map_map, List.map_map] at hpaths
  refine hpaths.trans (List.map_congr_left fun names hnames => ?_)
  exact place_pathOf (isSegment_of_mem_fileNames h hnames)

end ProjectPlan

/-! ### What is written -/

namespace Writer

variable {writer : Writer (StateM FileTree)} {report after : EmitReport} {artifact : Artifact}
  {tree tree' : FileTree}

theorem files_record (report : EmitReport) (path : String) (rendered : Rendered) :
    (report.record path rendered).files = report.files ++ [path] := by
  cases rendered <;> rfl

/-- Of the files that are to be written, all that are essential are listed, and of the others those
that could be written. -/
theorem files_foldlM {artifacts : List Artifact}
    (h : (artifacts.foldlM writer.emitArtifact report).run.run tree = (.ok after, tree')) :
    ∃ files, after.files = report.files ++ files ∧
      files.Sublist (artifacts.map Artifact.path) ∧
      ((artifacts.filter Artifact.isEssential).map Artifact.path).Sublist files := by
  induction artifacts generalizing report tree with
  | nil =>
    cases h
    exact ⟨[], (List.append_nil _).symm, .slnil, .slnil⟩
  | cons artifact rest ih =>
    rw [List.foldlM_cons] at h
    obtain ⟨middle, between, hartifact, hrest⟩ := run_bind_ok h
    obtain ⟨files, hfiles, hsome, hall⟩ := ih hrest
    rcases emitArtifact_eq_ok hartifact with ⟨rendered, -, rfl⟩ | ⟨cause, -, hessential, rfl⟩
    · refine ⟨artifact.path :: files, ?_, hsome.cons_cons _, ?_⟩
      · rw [hfiles, files_record, List.append_assoc]
        rfl
      · cases hessential : artifact.isEssential
        · rw [List.filter_cons_of_neg (by simp [hessential])]
          exact hall.cons _
        · rw [List.filter_cons_of_pos hessential]
          exact hall.cons_cons _
    · rw [List.filter_cons_of_neg (by simp [hessential])]
      exact ⟨files, hfiles, hsome.cons _, hall⟩

end Writer

/-! ### Distinct files -/

namespace ProjectPlan

variable {plan : ProjectPlan}

theorem isEssential_of_mem_modelFiles {artifact : Artifact} (h : artifact ∈ plan.modelFiles) :
    artifact.isEssential = true := by
  unfold modelFiles at h
  rw [List.mem_append, List.mem_append, List.mem_map] at h
  rcases h with (h | ⟨schema, -, rfl⟩) | h
  · rw [List.mem_singleton.mp h]
    rfl
  · rfl
  · rw [List.mem_singleton.mp h]
    rfl

/-- The modules of the models are among the files that must be written. -/
theorem map_modelStems_sublist :
    (plan.modelStems.map fun stem =>
        plan.pathOf [plan.names.package, "models", stem ++ ".py"]).Sublist
      ((plan.artifacts.filter Artifact.isEssential).map Artifact.path) := by
  have hmodels : plan.modelFiles.Sublist plan.artifacts := by
    unfold artifacts
    simp only [List.append_assoc]
    exact (List.sublist_append_left ..).trans (List.sublist_append_right ..)
  have hessential : plan.modelFiles.filter Artifact.isEssential = plan.modelFiles :=
    List.filter_eq_self.mpr fun _ => isEssential_of_mem_modelFiles
  have hfiles := (hmodels.filter Artifact.isEssential).map Artifact.path
  rw [hessential, map_path_modelFiles] at hfiles
  refine .trans ?_ hfiles
  have hstems : "base.py" :: moduleFileNames (plan.schemas.map (modelStem ·.1))
      = plan.modelStems.map (· ++ ".py") ++ ["__init__.py"] := rfl
  rw [hstems, namesIn, List.map_append, List.map_append, List.map_map, List.map_map]
  exact List.sublist_append_left ..

end ProjectPlan

namespace Enhancer

variable {enhancer : Enhancer (StateM FileTree)} {spec : Spec} {asked : Nat} {directory : String}
  {report : EmitReport} {questions : List Question} {tree tree' : FileTree}

/-- The files of a project that was written are different from each other, and lead to different
places, exactly when the modules of the models have different stems. -/
theorem nodup_files_emit
    (h : (enhancer.emit spec asked directory).run.run tree = (.ok (report, questions), tree')) :
    (report.files.Nodup ↔
        ("base" :: (spec.schemas?.getD []).map (ProjectPlan.modelStem ·.1)).Nodup) ∧
      ((report.files.map Path.place).Nodup ↔
        ("base" :: (spec.schemas?.getD []).map (ProjectPlan.modelStem ·.1)).Nodup) := by
  unfold emit at h
  split at h
  · cases h
  · next plan hplan =>
    obtain ⟨written, between, hwritten, hrest⟩ := run_bind_ok h
    cases hrest
    obtain ⟨files, hfiles, hsome, hall⟩ := Writer.files_foldlM hwritten
    have hnamed := ProjectPlan.isNamed_of_make hplan
    have hstems : plan.modelStems =
        "base" :: (spec.schemas?.getD []).map (ProjectPlan.modelStem ·.1) := by
      obtain ⟨tools, -, rfl⟩ := Option.map_eq_some_iff.mp hplan
      rfl
    have hfiles : report.files = files := hfiles
    rw [hfiles, ← hstems]
    -- The places are different if the names are, and then the paths are.
    have hplaces : plan.modelStems.Nodup → (files.map Path.place).Nodup := by
      intro hnodup
      have hnames := (ProjectPlan.nodup_fileNames hnamed).mpr hnodup
      have hbelow := hnames.map (List.append_right_injective (Path.place plan.directory))
      rw [← ProjectPlan.map_place_artifacts hnamed] at hbelow
      refine (hsome.map Path.place).nodup ?_
      rwa [List.map_map]
    have hpaths : files.Nodup → plan.modelStems.Nodup := by
      intro hnodup
      exact ((ProjectPlan.map_modelStems_sublist.trans hall).nodup hnodup).of_map _
    exact ⟨⟨hpaths, fun hnodup => (hplaces hnodup).of_map _⟩,
      ⟨fun hnodup => hpaths (hnodup.of_map _), hplaces⟩⟩

/-- A description with two schemas whose modules have different stems. -/
def petsSchemasSpec : Spec := ⟨.object [("paths", .object []), ("components", .object [("schemas",
  .object [("Pet", .object []), ("PetStore", .object [])])])]⟩

/-- The files of `petsSchemasSpec` lead to different places. -/
theorem nodup_files_emit_petsSchemasSpec : ∃ report questions tree,
    (dryRun.emit petsSchemasSpec 0 "out").run.run .empty = (.ok (report, questions), tree) ∧
      report.files.Nodup ∧ (report.files.map Path.place).Nodup := by
  have hok : ((dryRun.emit petsSchemasSpec 0 "out").run.run .empty).1.isOk = true := rfl
  rcases hrun : (dryRun.emit petsSchemasSpec 0 "out").run.run .empty with ⟨cause | found, tree⟩
  · rw [hrun] at hok
    cases hok
  obtain ⟨report, questions⟩ := found
  obtain ⟨hfiles, hplaces⟩ := nodup_files_emit hrun
  have hstems : ("base" :: (petsSchemasSpec.schemas?.getD []).map
      (ProjectPlan.modelStem ·.1)).Nodup := by decide
  exact ⟨report, questions, tree, rfl, hfiles.mpr hstems, hplaces.mpr hstems⟩

/-- A description with two schemas whose modules have the same stem, and with one whose module has
the stem of the base classes. -/
def clashingSpec : Spec := ⟨.object [("paths", .object []), ("components", .object [("schemas",
  .object [("Pet", .object []), ("pet", .object []), ("Base", .object [])])])]⟩

/-- Three schemas and the base classes have two modules. -/
theorem not_nodup_files_emit : ∃ report questions tree,
    (dryRun.emit clashingSpec 0 "out").run.run .empty = (.ok (report, questions), tree) ∧
      ¬report.files.Nodup ∧
      report.files.count "out/mcp_generated_api/models/pet.py" = 2 ∧
      report.files.count "out/mcp_generated_api/models/base.py" = 2 := by
  have hfiles : ((dryRun.emit clashingSpec 0 "out").run.run .empty).1.toOption.any (fun found =>
      !found.1.files.Nodup && found.1.files.count "out/mcp_generated_api/models/pet.py" = 2
        && found.1.files.count "out/mcp_generated_api/models/base.py" = 2) = true :=
    rfl
  rcases hrun : (dryRun.emit clashingSpec 0 "out").run.run .empty with ⟨cause | found, tree⟩
  · rw [hrun] at hfiles
    cases hfiles
  rw [hrun] at hfiles
  simp only [Except.toOption, Option.any_some, Bool.and_eq_true, Bool.not_eq_true',
    decide_eq_true_eq, decide_eq_false_iff_not] at hfiles
  exact ⟨found.1, found.2, tree, rfl, hfiles.1.1, hfiles.1.2, hfiles.2⟩

end Enhancer

end ApiTools
