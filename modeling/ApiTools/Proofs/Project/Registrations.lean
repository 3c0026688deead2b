import ApiTools.Enhancement
import ApiTools.Proofs.Files.Runs
import ApiTools.Proofs.Project.Modules
import ApiTools.Proofs.Spec.Operations

/-!
# What a project registers

A project that is written registers every operation of its API description once
(`Enhancer.registers_emit`).  The report has the registrations of the plan, whatever becomes of the
files (`Writer.registrations_emit`); these are the modules of the tools, grouped by the stems for
their paths (`ToolModule.isGrouped_group`); and there is a tool for each operation, in the order of
the operations (`Spec.map_of_tools?`).
-/

namespace ApiTools

/-! ### Writing the files -/

@[simp] theorem EmitReport.registrations_record (report : EmitReport) (path : String)
    (rendered : Rendered) :
    (report.record path rendered).registrations = report.registrations := by
  cases rendered <;> rfl

@[simp] theorem EmitReport.packageDirectory_record (report : EmitReport) (path : String)
    (rendered : Rendered) :
    (report.record path rendered).packageDirectory = report.packageDirectory := by
  cases rendered <;> rfl

namespace Writer

variable {writer : Writer (StateM FileTree)} {report after : EmitReport} {artifact : Artifact}
  {tree tree' : FileTree}

/-- A file is recorded with what became of it.  When it cannot be made, that ends everything if it
is essential, and otherwise it is recorded with the reason. -/
theorem run_emitArtifact (writer : Writer (StateM FileTree)) (report : EmitReport)
    (artifact : Artifact) (tree : FileTree) :
    (writer.emitArtifact report artifact).run.run tree =
      match (writer.render artifact.path artifact.template (.object artifact.values)).run.run
        tree with
      | (.ok rendered, after) => (.ok (report.record artifact.path rendered), after)
      | (.error cause, after) =>
        (if artifact.isEssential then .error (.artifact artifact.path cause)
          else .ok { report with failed := report.failed ++ [(artifact.path, cause.message)] },
          after) := by
  unfold emitArtifact
  generalize writer.render artifact.path artifact.template (.object artifact.values) = rendering
  rcases h : rendering.run.run tree with ⟨cause | rendered, after⟩
  · simp only [ExceptT.run_bind, ExceptT.run_tryCatch, EarlyReturn.runK, h, StateT.run_bind]
    by_cases hessential : artifact.isEssential
    · simp only [hessential, if_true]
      rfl
    · simp only [hessential]
      rfl
  · simp only [ExceptT.run_bind, ExceptT.run_tryCatch, EarlyReturn.runK, h, StateT.run_bind]
    rfl

/-- What a file did on which a run went on: it was recorded, or it is not essential and it is
recorded why it could not be made. -/
theorem emitArtifact_eq_ok
    (h : (writer.emitArtifact report artifact).run.run tree = (.ok after, tree')) :
    (∃ rendered,
      (writer.render artifact.path artifact.template (.object artifact.values)).run.run tree
        = (.ok rendered, tree') ∧ after = report.record artifact.path rendered) ∨
    (∃ cause,
      (writer.render artifact.path artifact.template (.object artifact.values)).run.run tree
        = (.error cause, tree') ∧ artifact.isEssential = false ∧
      after = { report with failed := report.failed ++ [(artifact.path, cause.message)] }) := by
  rw [run_emitArtifact] at h
  rcases hrender : (writer.render artifact.path artifact.template
    (.object artifact.values)).run.run tree with ⟨cause | rendered, made⟩
  · rw [hrender] at h
    dsimp only at h
    split_ifs at h with hessential
    · cases h
    · cases h
      exact .inr ⟨cause, rfl, Bool.eq_false_iff.mpr hessential, rfl⟩
  · rw [hrender] at h
    cases h
    exact .inl ⟨rendered, rfl, rfl⟩

/-- What neither a file that is recorded nor one that failed changes in a report is there at the
end. -/
theorem report_foldlM {α : Type} {f : EmitReport → α} {artifacts : List Artifact}
    (hrecord : ∀ report path rendered, f (EmitReport.record report path rendered) = f report)
    (hfailed : ∀ (report : EmitReport) (failed : List (String × String)),
      f { report with failed } = f report)
    (h : (artifacts.foldlM writer.emitArtifact report).run.run tree = (.ok after, tree')) :
    f after = f report := by
  induction artifacts generalizing report tree with
  | nil =>
    cases h
    rfl
  | cons artifact rest ih =>
    rw [List.foldlM_cons] at h
    obtain ⟨middle, between, hartifact, hrest⟩ := run_bind_ok h
    rw [ih hrest]
    rcases emitArtifact_eq_ok hartifact with ⟨rendered, -, rfl⟩ | ⟨cause, -, -, rfl⟩
    · exact hrecord ..
    · exact hfailed ..

/-- A project that is written has the registrations of its plan, whatever becomes of the files that
are not essential. -/
theorem registrations_emit {plan : ProjectPlan}
    (h : (writer.emit plan).run.run tree = (.ok after, tree')) :
    after.registrations = plan.registrations :=
  report_foldlM EmitReport.registrations_record (fun _ _ => rfl) h

/-- It has the directory of its plan too. -/
theorem packageDirectory_emit {plan : ProjectPlan}
    (h : (writer.emit plan).run.run tree = (.ok after, tree')) :
    after.packageDirectory = plan.packageDirectory :=
  report_foldlM EmitReport.packageDirectory_record (fun _ _ => rfl) h

end Writer

/-! ### The tools -/

namespace Spec

variable {spec : Spec} {op : Operation} {tool : Tool} {tools : List Tool}

/-- A tool keeps the path of its operation, and has the name for it. -/
theorem path_name_of_tool? (h : spec.tool? op = some tool) :
    tool.httpPath = op.path ∧ tool.name = toolName op := by
  obtain ⟨parts, -, h⟩ := Option.bind_eq_some_iff.mp h
  obtain ⟨body, -, h⟩ := Option.bind_eq_some_iff.mp h
  cases h
  exact ⟨rfl, rfl⟩

/-- There is one tool for each operation, in the same order. -/
theorem map_of_tools? {α : Type} (h : spec.tools? = some tools) (f : String → String → α) :
    tools.map (fun tool => f tool.httpPath tool.name) =
      spec.operations.map fun op => f op.path (toolName op) := by
  unfold tools? at h
  generalize spec.operations = ops at h ⊢
  induction ops generalizing tools with
  | nil =>
    cases h
    rfl
  | cons op rest ih =>
    rw [List.mapM_cons] at h
    obtain ⟨tool, htool, h⟩ := Option.bind_eq_some_iff.mp h
    obtain ⟨others, hothers, h⟩ := Option.bind_eq_some_iff.mp h
    cases h
    obtain ⟨hpath, hname⟩ := path_name_of_tool? htool
    rw [List.map_cons, List.map_cons, ih hothers, hpath, hname]

end Spec

/-! ### The registrations -/

/-- The registrations lose and duplicate nothing of the operations. -/
structure Spec.IsRegistered (spec : Spec) (registrations : List Registration) : Prop where
  /-- The modules come up in the order of the first operations that belong to them. -/
  modules : registrations.map Registration.module =
    (spec.operations.map fun op => ToolModule.stemOf op.path).eraseDups
  /-- The functions of a module keep the order of the operations. -/
  functions : ∀ registration ∈ registrations, registration.functions =
    (spec.operations.filter fun op => ToolModule.stemOf op.path = registration.module).map
      Spec.toolName
  /-- There is one function for each operation, in the module for its path. -/
  entries : (registrations.flatMap fun registration =>
      registration.functions.map (Prod.mk registration.module)).Perm
    (spec.operations.map fun op => (ToolModule.stemOf op.path, Spec.toolName op))

namespace Spec.IsRegistered

variable {spec : Spec} {registrations : List Registration}

theorem nodup_modules (h : spec.IsRegistered registrations) :
    (registrations.map Registration.module).Nodup :=
  h.modules ▸ nodup_eraseDups _

/-- The registered functions have the names of the tools of the operations. -/
theorem perm_names (h : spec.IsRegistered registrations) :
    (registrations.flatMap Registration.functions).Perm (spec.operations.map Spec.toolName) := by
  have hnames := h.entries.map Prod.snd
  rw [List.map_flatMap, List.map_map] at hnames
  simpa [Function.comp_def] using hnames

/-- As many functions are registered as there are operations. -/
theorem total_functions (h : spec.IsRegistered registrations) :
    total (registrations.map fun registration => registration.functions.length) =
      spec.operations.length := by
  have hlength := h.entries.length_eq
  rw [List.length_map, List.length_flatMap] at hlength
  rw [← hlength]
  simp only [List.length_map]
  rfl

end Spec.IsRegistered

namespace ProjectPlan

variable {spec : Spec} {settings : Settings} {assistant? : Option Assistant} {asked : Nat}
  {directory : String} {plan : ProjectPlan}

/-- The registrations of a plan are those of its modules, which are groups of the tools. -/
theorem isRegistered_registrations
    (h : make spec settings assistant? asked directory = some plan) :
    spec.IsRegistered plan.registrations := by
  obtain ⟨tools, htools, rfl⟩ := Option.map_eq_some_iff.mp h
  have hgrouped := ToolModule.isGrouped_group tools
  refine ⟨?_, ?_, ?_⟩
  · have hstems := Spec.map_of_tools? htools fun path _ => ToolModule.stemOf path
    rw [← hstems, ← hgrouped.stems]
    exact List.map_map
  · intro registration hregistration
    obtain ⟨module, hmodule, rfl⟩ := List.mem_map.mp hregistration
    -- The stem depends on the path alone, so it selects tools and operations alike.
    have hpairs := congrArg
      (fun pairs => (pairs.filter fun pair => ToolModule.stemOf pair.1 = module.stem).map Prod.snd)
      (Spec.map_of_tools? htools Prod.mk)
    simp only [List.filter_map, List.map_map, Function.comp_def] at hpairs
    rw [← hgrouped.groups module hmodule] at hpairs
    exact hpairs
  · have hentries := Spec.map_of_tools? htools fun path name => (ToolModule.stemOf path, name)
    have hperm := hgrouped.perm.map fun tool => (ToolModule.stemOf tool.httpPath, tool.name)
    rw [List.map_flatMap, hentries] at hperm
    refine .trans (.of_eq ?_) hperm
    -- Every tool of a module has the module's stem.
    rw [registrations, List.flatMap_map]
    refine List.flatMap_congr fun module hmodule => ?_
    rw [List.map_map]
    refine List.map_congr_left fun tool htool => ?_
    rw [hgrouped.stemOf_eq hmodule htool, Function.comp_apply]

end ProjectPlan

namespace Enhancer

variable {enhancer : Enhancer (StateM FileTree)} {spec : Spec} {asked : Nat} {directory : String}
  {report : EmitReport} {questions : List Question} {tree tree' : FileTree}

/-- A project that was written was planned, and the files of its plan were written. -/
theorem emit_cases
    (h : (enhancer.emit spec asked directory).run.run tree = (.ok (report, questions), tree')) :
    ∃ plan, ProjectPlan.make spec enhancer.settings enhancer.assistant? asked directory
        = some plan ∧
      (enhancer.writer.emit plan).run.run tree = (.ok report, tree') ∧
      questions = plan.texts.questions := by
  unfold emit at h
  split at h
  · -- Without a plan nothing is written.
    cases h
  · next plan hplan =>
    obtain ⟨written, between, hwritten, hrest⟩ := run_bind_ok h
    cases hrest
    exact ⟨plan, hplan, hwritten, rfl⟩

/-- In a project that is written every operation is registered once. -/
theorem registers_emit (distinct : spec.HasDistinctPaths)
    (h : (enhancer.emit spec asked directory).run.run tree = (.ok (report, questions), tree')) :
    spec.operations.map (fun op => (op.path, op.method)) =
        ((Members.keys (spec.paths?.getD [])).product Method.all).filter spec.describes ∧
      (spec.operations.map fun op => (op.path, op.method)).Nodup ∧
      spec.IsRegistered report.registrations ∧
      (report.registrations.map Registration.module).Nodup ∧
      report.toolCount = spec.operations.length := by
  have hregistered : spec.IsRegistered report.registrations := by
    unfold emit at h
    split at h
    · -- Without a plan nothing is written.
      cases h
    · next plan hplan =>
      obtain ⟨written, between, hwritten, hrest⟩ := run_bind_ok h
      cases hrest
      rw [Writer.registrations_emit hwritten]
      exact ProjectPlan.isRegistered_registrations hplan
  exact ⟨Spec.map_key_operations distinct, Spec.nodup_operations distinct, hregistered,
    hregistered.nodup_modules, hregistered.total_functions⟩

/-- A description in which two paths share a module, and another path stands between them. -/
def sharedSpec : Spec := ⟨.object [("paths", .object [
  ("/a-b", .object [("post", .object []), ("get", .object [])]),
  ("/c", .object [("get", .object []), ("put", .null)]),
  ("/a/b", .object [("put", .object [])])])]⟩

/-- A run in which nothing is written. -/
def dryRun : Enhancer (StateM FileTree) where
  settings := {}
  assistant? := none
  writer := ⟨none, true⟩
  thresholds := {}
  clock := pure .zero

/-- The four operations go to two modules. -/
theorem registers_emit_sharedSpec :
    sharedSpec.HasDistinctPaths ∧ ∃ report questions tree,
      (dryRun.emit sharedSpec 0 "out").run.run .empty = (.ok (report, questions), tree) ∧
      sharedSpec.IsRegistered report.registrations ∧
      report.registrations.map Registration.module = ["a_b", "c"] ∧ report.toolCount = 4 := by
  have hdistinct : sharedSpec.HasDistinctPaths := by decide
  have hok : ((dryRun.emit sharedSpec 0 "out").run.run .empty).1.isOk = true := rfl
  rcases hrun : (dryRun.emit sharedSpec 0 "out").run.run .empty with ⟨cause | found, tree⟩
  · rw [hrun] at hok
    cases hok
  obtain ⟨report, questions⟩ := found
  obtain ⟨-, -, hregistered, -, hcount⟩ := registers_emit hdistinct hrun
  refine ⟨hdistinct, report, questions, tree, rfl, hregistered, ?_, ?_⟩
  · rw [hregistered.modules]
    decide
  · rw [hcount]
    decide

end Enhancer

end ApiTools
