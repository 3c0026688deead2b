import ApiTools.Audit.Project
import ApiTools.Proofs.Audit.Verdict
import ApiTools.Proofs.Project.Sources
import ApiTools.Proofs.Project.Vacant

/-!
# Auditing a project that was just written

A project that is written to a vacant directory is audited without finding a function that is not
registered, and it passes exactly when the names of its functions are distinct and not too long
(`Enhancer.audits_emit`).  What the audit says depends on the names alone
(`ProjectAudit.passed_make_iff`); the names that it finds are those that the sources define and
register, file by file.
-/

namespace ApiTools

open Audit FileTree

/-! ### Running an audit -/

namespace Audit

variable {limits : NameLimits} {directory server file source : String} {tree : FileTree}
  {entries : List (String × Bool)} {sources : String → String}

theorem map_name_functionsOf (file source : String) :
    (functionsOf file source).map ToolFunction.name = (definitions source).map Prod.fst := by
  unfold functionsOf
  rw [List.map_map]
  rfl

/-- The functions that the modules of tools define, by the sources of the modules. -/
def functionsIn (tools : String) (sources : String → String) (names : List String) :
    List ToolFunction :=
  names.flatMap fun name => functionsOf (Path.join tools name) (sources name)

theorem functionsIn_perm {names names' : List String} (h : names.Perm names') :
    (functionsIn file sources names).Perm (functionsIn file sources names') := h.flatMap_right _

/-- A project whose files can all be read is audited by what they define and register. -/
theorem run_auditProject (limits : NameLimits)
    (hpresent : (tree.find? (toolsDirectory directory)).isSome = true)
    (hlist : tree.list (toolsDirectory directory) = .ok entries)
    (hread : ∀ name ∈ (entries.map Prod.fst).filter isToolModule,
      tree.read (Path.join (toolsDirectory directory) name) = .ok (sources name))
    (hserver : tree.read (Path.join directory "server.py") = .ok server) :
    (auditProject limits directory : ExceptT Failure (StateM FileTree) ProjectAudit).run.run tree =
      (.ok (.make limits ((Path.fileName? directory).getD directory) []
        (functionsIn (toolsDirectory directory) sources
          (Text.sorted ((entries.map Prod.fst).filter isToolModule))) (registrations server)),
        tree) := by
  have hfunctions : ∀ name ∈ Text.sorted ((entries.map Prod.fst).filter isToolModule),
      ((do
        let file := Path.join (toolsDirectory directory) name
        return functionsOf file (← FileStore.attempt (FileStore.read file))) :
          ExceptT Failure (StateM FileTree) (List ToolFunction)).run.run tree
        = (.ok (functionsOf (Path.join (toolsDirectory directory) name) (sources name)), tree) := by
    intro name hname
    have hname : name ∈ (entries.map Prod.fst).filter isToolModule := List.mem_mergeSort.mp hname
    dsimp only
    rw [run_bind_of_ok (FileStore.run_attempt_read (hread name hname))]
    rfl
  -- A server that cannot be read is only warned about, so reading it is no step that can fail.
  have hregistered : (readServer (Path.join directory "server.py") :
      StateM FileTree (List String × List String)).run tree = ((registrations server, []), tree) := by
    have hfile : (FileStore.read (Path.join directory "server.py") :
        StateM FileTree (Except FileError String)).run tree = (.ok server, tree) :=
      congrArg (·, tree) hserver
    unfold readServer
    rw [StateT.run_bind, hfile]
    rfl
  have hfound : (FileStore.isPresent (toolsDirectory directory) : StateM FileTree Bool).run tree
      = (true, tree) := congrArg (·, tree) hpresent
  unfold auditProject
  rw [run_lift_bind, hfound]
  simp only [Bool.not_true, Bool.false_eq_true, if_false]
  rw [run_bind_of_ok (FileStore.run_attempt_list hlist), run_bind_of_ok (run_mapM_of_ok hfunctions),
    run_lift_bind, hregistered]
  rfl

/-- Do the two sources define and register the same names? -/
structure SameNames (before after : String) : Prop where
  definitions : (definitions after).map Prod.fst = (definitions before).map Prod.fst
  registrations : registrations after = registrations before

theorem isToolModule_moduleFile {stem : String} (h : Naming.IsName stem) :
    isToolModule (stem ++ ".py") = true := by
  have hinit := h.append_ne_init ".py"
  unfold isToolModule
  rw [h.extension?_append_py]
  simpa using hinit

end Audit

namespace ProjectPlan

variable {plan : ProjectPlan} {writer : Writer (StateM FileTree)} {report : EmitReport}
  {tree tree' : FileTree} {registration : Registration} {artifact : Artifact}
  {directories : List String} {name source : String}

/-- Does the second text define and register the same names as the first one, if that is the source
of a file of the project? -/
def KeepsNames (plan : ProjectPlan) (before after : String) : Prop :=
  (∃ artifact ∈ plan.artifacts, artifact.source = .ok before) → SameNames before after

/-- The modules among the files of the tools. -/
theorem filter_isToolModule (h : plan.IsNamed) :
    plan.toolFileNames.filter isToolModule = plan.modules.map (·.stem ++ ".py") := by
  unfold toolFileNames moduleFileNames
  rw [List.filter_append, List.map_map, List.filter_eq_self.mpr]
  · have hmarker : ["__init__.py"].filter isToolModule = [] := by decide
    rw [hmarker, List.append_nil]
    rfl
  · rw [List.forall_mem_map]
    exact fun module hmodule => isToolModule_moduleFile (h.stems module hmodule)

/-- A file that is alone in its place stands there with the names that it was filled in with. -/
theorem stands_with_names (h : plan.IsNamed) (hformat : writer.FormatsWithin plan.KeepsNames)
    (hdry : writer.dryRun = false)
    (hrun : (writer.emit plan).run.run tree = (.ok report, tree'))
    (hartifact : artifact ∈ plan.artifacts) (hessential : artifact.isEssential = true)
    (hpath : artifact.path = plan.pathOf (directories ++ [name]))
    (hnames : directories ++ [name] ∈ plan.fileNames)
    (hmodels : ∀ file, directories ++ [name] ≠ [plan.names.package, "models", file])
    (hsource : artifact.source = .ok source) :
    ∃ content, SameNames source content ∧
      Writer.Stands tree' (plan.pathOf directories) name content := by
  obtain ⟨filled, content, hfilled, hkept, hstands⟩ :=
    stands_of_isSingle h hformat hdry hrun hartifact hessential hpath hnames hmodels
  obtain rfl : filled = source := Except.ok.inj (hfilled.symm.trans hsource)
  exact ⟨content, hkept ⟨artifact, hartifact, hsource⟩, hstands⟩

variable (h : plan.IsWritable) (hformat : writer.FormatsWithin plan.KeepsNames)
  (hdry : writer.dryRun = false) (hrun : (writer.emit plan).run.run tree = (.ok report, tree'))

include h hformat hdry hrun

/-- For each registration there stands a module that defines its functions. -/
theorem exists_module (hregistration : registration ∈ plan.registrations) :
    ∃ content, Writer.Stands tree' (plan.pathOf [plan.names.package, "tools"])
        (registration.module ++ ".py") content ∧
      (definitions content).map Prod.fst = registration.functions := by
  obtain ⟨artifact, hartifact, hpath, source, hsource, hfunctions⟩ :=
    Spec.exists_of_forall₂ (forall₂_isModuleOf h hrun) hregistration
  have hmem : artifact ∈ plan.artifacts := List.mem_of_mem_filter hartifact
  have htool : artifact ∈ plan.toolFiles := by
    rw [filter_tools_artifacts] at hartifact
    exact List.mem_append_left _ hartifact
  have hname : registration.module ++ ".py" ∈ plan.toolFileNames := by
    obtain ⟨module, hmodule, rfl⟩ := List.mem_map.mp hregistration
    exact List.mem_append_left _ (List.mem_map_of_mem (List.mem_map_of_mem hmodule))
  obtain ⟨content, hsame, hstands⟩ := stands_with_names h.toIsNamed hformat hdry hrun hmem
    (isEssential_of_mem_toolFiles htool) hpath (mem_fileNames_of_mem_toolFileNames hname) (by simp)
    hsource
  exact ⟨content, hstands, hsame.definitions.trans hfunctions⟩

/-- The server stands in its place and registers all functions. -/
theorem exists_server (htitle : IsFree plan.names.title.toList) :
    ∃ content, Writer.Stands tree' (plan.pathOf [plan.names.package]) "server.py" content ∧
      Audit.registrations content = plan.registrations.flatMap Registration.functions := by
  obtain ⟨hpath, source, hsource, hfunctions⟩ := isServerOf_serverFile h htitle hrun
  have hmem : plan.serverFile ∈ plan.artifacts :=
    List.mem_of_mem_filter (filter_server_artifacts plan ▸ List.mem_singleton_self _)
  have hname : [plan.names.package] ++ ["server.py"] ∈ plan.fileNames := by
    unfold fileNames outerNames
    simp
  obtain ⟨content, hsame, hstands⟩ := stands_with_names h.toIsNamed hformat hdry hrun hmem rfl
    hpath hname (by simp) hsource
  exact ⟨content, hstands, hsame.registrations.trans hfunctions⟩

omit h hformat hdry hrun

/-- The content of the file with the name among the tools, or nothing. -/
def toolSource (plan : ProjectPlan) (tree : FileTree) (name : String) : String :=
  (tree.read (Path.join (toolsDirectory plan.packageDirectory) name)).toOption.getD ""

theorem read_of_stands {content : String} (hname : Path.IsSegment name)
    (hstands : Writer.Stands tree' (plan.pathOf [plan.names.package, "tools"]) name content) :
    plan.toolSource tree' name = content ∧
      tree'.read (Path.join (toolsDirectory plan.packageDirectory) name) = .ok content := by
  have hread : tree'.read (Path.join (toolsDirectory plan.packageDirectory) name) = .ok content :=
    hstands.read hname
  refine ⟨?_, hread⟩
  unfold toolSource
  rw [hread]
  rfl

include h hformat hdry hrun

/-- The functions that the modules define are those that are registered. -/
theorem map_name_functionsIn :
    (functionsIn (toolsDirectory plan.packageDirectory) (plan.toolSource tree')
        (plan.modules.map (·.stem ++ ".py"))).map ToolFunction.name
      = plan.registrations.flatMap Registration.functions := by
  unfold functionsIn registrations
  rw [List.map_flatMap, List.flatMap_map, List.flatMap_map]
  refine List.flatMap_congr fun module hmodule => ?_
  have hregistration : registrationOf module ∈ plan.registrations := List.mem_map_of_mem hmodule
  obtain ⟨content, hstands, hnames⟩ := exists_module h hformat hdry hrun hregistration
  have hsegment : Path.IsSegment (module.stem ++ ".py") :=
    (h.stems module hmodule).isSegment_append (by decide)
  rw [map_name_functionsOf, (read_of_stands hsegment hstands).1]
  exact hnames

/-- The marker of the package shows that there is a way to the directory of the tools. -/
theorem areDirectories_tools :
    tree'.AreDirectories (ways [] (Path.parts (Path.join plan.packageDirectory "tools"))) := by
  have hmarker : "__init__.py" ∈ plan.toolFileNames :=
    List.mem_append_right _ (List.mem_singleton_self _)
  obtain ⟨marker, hstands⟩ := stands_of_mem_toolFileNames h.toIsNamed hformat hdry hrun hmarker
  exact hstands.way

theorem read_of_mem_toolFileNames (hname : name ∈ plan.toolFileNames) :
    tree'.read (Path.join (toolsDirectory plan.packageDirectory) name)
      = .ok (plan.toolSource tree' name) := by
  obtain ⟨content, hstands⟩ := stands_of_mem_toolFileNames h.toIsNamed hformat hdry hrun hname
  have hsegment := isSegment_of_mem_fileNames h.toIsNamed
    (mem_fileNames_of_mem_toolFileNames hname) name (by simp)
  obtain ⟨hsource, hread⟩ := read_of_stands hsegment hstands
  rw [hsource, hread]

/-- The directory of the tools lists what stands in their place. -/
theorem list_tools : ∃ entries,
    tree'.list (toolsDirectory plan.packageDirectory) = .ok entries ∧
      entries.map Prod.fst = tree'.names plan.toolsPlace := by
  have hplace : Path.place plan.packageDirectory ++ ["tools"] = plan.toolsPlace := by
    unfold packageDirectory toolsPlace
    rw [Path.place_join _ (ProjectNames.isSegment_package h.name), List.append_assoc]
    rfl
  refine ⟨_, list_directory (by decide) (areDirectories_tools h hformat hdry hrun), ?_⟩
  rw [hplace]
  rfl

/-- A project that was written to a vacant directory is audited by the names that its plan
registers. -/
theorem run_auditProject_emit (htitle : IsFree plan.names.title.toList)
    (hvacant : tree.IsVacant plan.directory) (limits : NameLimits) :
    ∃ project functions,
      (auditProject limits plan.packageDirectory :
          ExceptT Failure (StateM FileTree) ProjectAudit).run.run tree'
        = (.ok (.make limits project [] functions
            (plan.registrations.flatMap Registration.functions)), tree') ∧
      (functions.map ToolFunction.name).Perm
        (plan.registrations.flatMap Registration.functions) := by
  have hnames := names_toolsPlace h.toIsNamed hformat hdry hrun hvacant
  obtain ⟨entries, hlist, hentries⟩ := list_tools h hformat hdry hrun
  obtain ⟨server, hserver, hregistered⟩ := exists_server h hformat hdry hrun htitle
  have hread : ∀ name ∈ (entries.map Prod.fst).filter isToolModule,
      tree'.read (Path.join (toolsDirectory plan.packageDirectory) name)
        = .ok (plan.toolSource tree' name) := by
    intro name hname
    rw [hentries] at hname
    exact read_of_mem_toolFileNames h hformat hdry hrun
      (hnames.subset (List.mem_of_mem_filter hname))
  have hpresent : (tree'.find? (toolsDirectory plan.packageDirectory)).isSome = true := by
    rw [show tree'.find? (toolsDirectory plan.packageDirectory) = some .directory from
      find?_directory (by decide) (areDirectories_tools h hformat hdry hrun)]
    rfl
  have hrunAudit := run_auditProject limits hpresent hlist hread
    (hserver.read (by decide : Path.IsSegment "server.py"))
  rw [hregistered] at hrunAudit
  refine ⟨_, _, hrunAudit, ?_⟩
  -- The modules are listed in the order of their names, and were planned in another one.
  have hmodules : (Text.sorted ((entries.map Prod.fst).filter isToolModule)).Perm
      (plan.modules.map (·.stem ++ ".py")) := by
    rw [← filter_isToolModule h.toIsNamed, hentries]
    exact (List.mergeSort_perm _ _).trans (hnames.filter isToolModule)
  rw [← map_name_functionsIn h hformat hdry hrun]
  exact (functionsIn_perm hmodules).map ToolFunction.name

end ProjectPlan

namespace Enhancer

variable {enhancer : Enhancer (StateM FileTree)} {spec : Spec} {asked : Nat} {directory : String}
  {report : EmitReport} {questions : List Question} {tree tree' : FileTree}

/-- In a project that is written each module of tools defines the functions that are registered for
it, in order, and the server registers all of them, whatever a language model replied.  When it was
written to a vacant directory, and the formatter, if there is one, leaves the names in the sources,
an audit finds no function that is not registered; and it is passed when the names of the tools are
distinct and not too long, and only then. -/
theorem audits_emit (htexts : spec.HasOneLineTexts) (hids : spec.HasOperationIds)
    (htitle : Text.contains (ProjectNames.ofSpec spec enhancer.settings).title "mcp.tool()("
      = false)
    (h : (enhancer.emit spec asked directory).run.run tree = (.ok (report, questions), tree')) :
    ∃ plan,
      ProjectPlan.make spec enhancer.settings enhancer.assistant? asked directory = some plan ∧
      spec.IsRegistered report.registrations ∧
      List.Forall₂ plan.IsModuleOf (plan.artifacts.filter (·.template = .tools))
        report.registrations ∧
      (plan.artifacts.filter (·.template = .server) = [plan.serverFile] ∧
        plan.IsServerOf plan.serverFile report.registrations) ∧
      (enhancer.writer.dryRun = false → tree.IsVacant directory →
        enhancer.writer.FormatsWithin plan.KeepsNames → ∀ limits, ∃ audit,
          (auditProject limits report.packageDirectory :
              ExceptT Failure (StateM FileTree) ProjectAudit).run.run tree' = (.ok audit, tree') ∧
          audit.unregistered = [] ∧
          (audit.passed = true ↔ (spec.operations.map Spec.toolName).Nodup ∧
            ∀ op ∈ spec.operations, (Spec.toolName op).toList.length ≤ limits.maximum)) := by
  unfold emit at h
  split at h
  · cases h
  · next plan hplan =>
    obtain ⟨written, between, hwritten, hrest⟩ := run_bind_ok h
    cases hrest
    have hwritable := ProjectPlan.isWritable_of_make htexts hids hplan
    have hregistered := ProjectPlan.isRegistered_registrations hplan
    obtain ⟨hfree, hdirectory⟩ : IsFree plan.names.title.toList ∧ plan.directory = directory := by
      obtain ⟨tools, -, rfl⟩ := Option.map_eq_some_iff.mp hplan
      exact ⟨htitle, rfl⟩
    rw [Writer.registrations_emit hwritten, Writer.packageDirectory_emit hwritten]
    refine ⟨plan, hplan, hregistered, ProjectPlan.forall₂_isModuleOf hwritable hwritten,
      ⟨ProjectPlan.filter_server_artifacts plan,
        ProjectPlan.isServerOf_serverFile hwritable hfree hwritten⟩, ?_⟩
    intro hdry hvacant hformat limits
    rw [← hdirectory] at hvacant
    obtain ⟨project, functions, hrun, hperm⟩ := ProjectPlan.run_auditProject_emit hwritable hformat
      hdry hwritten hfree hvacant limits
    have hnames : ∀ f ∈ functions,
        f.name ∈ plan.registrations.flatMap Registration.functions := fun f hf =>
      hperm.subset (List.mem_map_of_mem hf)
    have htools := hperm.trans hregistered.perm_names
    refine ⟨_, hrun, ProjectAudit.unregistered_make hnames, ?_⟩
    -- The functions have the names of the tools, in another order.
    have hshort : (∀ f ∈ functions, f.name.toList.length ≤ limits.maximum) ↔
        ∀ op ∈ spec.operations, (Spec.toolName op).toList.length ≤ limits.maximum := by
      have hnames : (∀ name ∈ functions.map ToolFunction.name,
          name.toList.length ≤ limits.maximum) ↔
          ∀ name ∈ spec.operations.map Spec.toolName, name.toList.length ≤ limits.maximum :=
        ⟨fun hall name hname => hall name (htools.symm.subset hname),
          fun hall name hname => hall name (htools.subset hname)⟩
      rwa [List.forall_mem_map, List.forall_mem_map] at hnames
    rw [ProjectAudit.passed_make_iff, htools.nodup_iff, hshort]
    exact ⟨fun hpassed => ⟨hpassed.1, hpassed.2.1⟩, fun hgood => ⟨hgood.1, hgood.2, hnames⟩⟩

/-- A description with two operations that take nothing. -/
def notesListSpec : Spec := ⟨.object [("info", .object [("title", .text "Notes")]),
  ("paths", .object [("/notes", .object [
    ("get", .object [("operationId", .text "list"), ("summary", .text "All notes.")]),
    ("delete", .object [("operationId", .text "clear")])])])]⟩

theorem hasOneLineTexts_notesListSpec : notesListSpec.HasOneLineTexts where
  path := by decide
  summary := by decide
  description := by decide
  parameter := by decide
  property op hop schema hschema := by
    -- There is no schema to begin with.
    exfalso
    induction hschema with
    | parameter hparameter =>
      have hnone : ∀ op ∈ notesListSpec.operations, notesListSpec.declaredParameters op = [] := by
        decide
      rw [hnone op hop] at hparameter
      cases hparameter
    | body hbody =>
      have hnone : ∀ op ∈ notesListSpec.operations, op.requestBody? = none := by decide
      rw [hnone op hop] at hbody
      cases hbody
    | next _ _ ih => exact ih

/-- A run in which files are written and not formatted. -/
def plainRun : Enhancer (StateM FileTree) := { dryRun with writer := ⟨none, false⟩ }

/-- The two functions of `notesListSpec` are found and pass. -/
theorem audits_emit_notesListSpec :
    (notesListSpec.HasOneLineTexts ∧ notesListSpec.HasOperationIds ∧
      FileTree.IsVacant .empty "out") ∧
    ∃ report questions tree audit,
      (plainRun.emit notesListSpec 0 "out").run.run .empty = (.ok (report, questions), tree) ∧
      (auditProject {} report.packageDirectory :
          ExceptT Failure (StateM FileTree) ProjectAudit).run.run tree = (.ok audit, tree) ∧
      audit.unregistered = [] ∧ audit.passed = true := by
  have hids : notesListSpec.HasOperationIds := by
    unfold Spec.HasOperationIds
    decide
  have hvacant : FileTree.IsVacant .empty "out" := by
    refine ⟨?_, by decide⟩
    intro names hnames
    rw [entry?_of_ne_nil _ (by simp [hnames])]
    rfl
  have hok : ((plainRun.emit notesListSpec 0 "out").run.run .empty).1.isOk = true := by
    decide +kernel
  rcases hrun : (plainRun.emit notesListSpec 0 "out").run.run .empty with ⟨cause | found, tree⟩
  · rw [hrun] at hok
    cases hok
  obtain ⟨report, questions⟩ := found
  obtain ⟨plan, -, -, -, -, haudit⟩ :=
    audits_emit hasOneLineTexts_notesListSpec hids (by decide +kernel) hrun
  -- There is no formatter, so the sources stay as they were filled in.
  have hformat : plainRun.writer.FormatsWithin plan.KeepsNames := by
    refine ⟨fun _ _ => ⟨rfl, rfl⟩, fun formatter hformatter => ?_⟩
    cases hformatter
  obtain ⟨audit, hresult, hregistered, hpassed⟩ := haudit rfl hvacant hformat {}
  exact ⟨⟨hasOneLineTexts_notesListSpec, hids, hvacant⟩, report, questions, tree, audit, rfl,
    hresult, hregistered, hpassed.mpr (by decide +kernel)⟩

end Enhancer

end ApiTools
