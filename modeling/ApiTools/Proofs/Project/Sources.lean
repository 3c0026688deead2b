import ApiTools.Proofs.Project.Written
import ApiTools.Proofs.Template.Sources
import ApiTools.Proofs.Tool.OneLine

/-!
# What the sources of a project define and register

The plan of a project fills the templates of the tools and of the server from tools whose names are
those of functions and whose texts are of one line (`ProjectPlan.IsWritable`).  So each module of
tools defines the functions that are registered for it (`ProjectPlan.forall₂_isModuleOf`), and the
server registers them all (`ProjectPlan.isServerOf_serverFile`).
-/

namespace ApiTools

open Audit Naming Text

/-! ### Names -/

namespace Spec

/-- Has every operation an identifier that is not blank? -/
def HasOperationIds (spec : Spec) : Prop :=
  ∀ op ∈ spec.operations, ∃ id ∈ op.operationId?, Text.isBlankText id = false

variable {spec : Spec} {op : Operation}

theorem isName_toolName (h : spec.HasOperationIds) (hop : op ∈ spec.operations) :
    IsName (toolName op) := by
  obtain ⟨id, hid, hblank⟩ := h op hop
  unfold toolName
  rw [Option.mem_def.mp hid]
  dsimp only
  rw [hblank, if_neg Bool.false_ne_true]
  exact isName_functionName id

end Spec

theorem ProjectNames.isName_package {names : ProjectNames} (h : IsName names.name) :
    IsName names.package := by
  have hlead : IsName "mcp_" := by decide
  exact hlead.append h.chars

/-! ### What is written for the tools -/

namespace ToolModule

variable {tool : Tool} {tools : List Tool} {modules : List ToolModule}

theorem forall_mem_insert {P : ToolModule → Prop} (h : ∀ module ∈ modules, P module)
    (hadd : ∀ module, P module → P (module.add tool))
    (hnew : P ⟨stemOf tool.httpPath, [tool.httpPath], [tool]⟩) :
    ∀ module ∈ insert tool modules, P module := by
  induction modules with
  | nil => exact List.forall_mem_singleton.mpr hnew
  | cons first rest ih =>
    rw [List.forall_mem_cons] at h
    rw [insert]
    split_ifs
    · exact List.forall_mem_cons.mpr ⟨hadd first h.1, h.2⟩
    · exact List.forall_mem_cons.mpr ⟨h.1, ih h.2⟩

/-- The paths of a module are those of its tools. -/
theorem paths_of_mem_group :
    ∀ module ∈ group tools, ∀ path ∈ module.paths, ∃ tool ∈ module.tools, tool.httpPath = path := by
  have hfold : ∀ (rest : List Tool) (modules : List ToolModule),
      (∀ module ∈ modules, ∀ path ∈ module.paths, ∃ tool ∈ module.tools, tool.httpPath = path) →
      ∀ module ∈ rest.foldl (fun modules tool => insert tool modules) modules,
        ∀ path ∈ module.paths, ∃ tool ∈ module.tools, tool.httpPath = path := by
    intro rest
    induction rest with
    | nil => exact fun _ h => h
    | cons tool rest ih =>
      refine fun modules h => ih _ (forall_mem_insert h (fun module hmodule path hpath => ?_) ?_)
      · have hcases : path ∈ module.paths ∨ path = tool.httpPath := by
          unfold add at hpath
          dsimp only at hpath
          split_ifs at hpath
          · exact .inl hpath
          · exact (List.mem_append.mp hpath).imp_right List.mem_singleton.mp
        have htools : (module.add tool).tools = module.tools ++ [tool] := rfl
        rw [htools]
        rcases hcases with hold | rfl
        · obtain ⟨other, hother, heq⟩ := hmodule path hold
          exact ⟨other, List.mem_append_left _ hother, heq⟩
        · exact ⟨tool, by simp, rfl⟩
      · exact List.forall_mem_singleton.mpr ⟨tool, List.mem_singleton_self _, rfl⟩
  exact hfold tools [] fun _ hnone => absurd hnone List.not_mem_nil

end ToolModule

theorem LanguageModel.length_replies (model : LanguageModel) (asked : Nat)
    (questions : List (Option Question)) :
    (model.replies asked questions).length = questions.length := by
  fun_induction replies model asked questions with
  | case1 => rfl
  | case2 asked rest ih => rw [List.length_cons, List.length_cons, ih]
  | case3 asked question rest ih => rw [List.length_cons, List.length_cons, ih]

/-- What is written for a tool is of one line, whatever the model replied. -/
theorem Tool.isOneLine_of_mem_written? {reply? : Option Reply} {text : String}
    (h : text ∈ written? reply?) : Text.IsOneLine text := by
  obtain ⟨reply, -, hreply⟩ := Option.bind_eq_some_iff.mp h
  dsimp only at hreply
  split_ifs at hreply
  cases hreply
  exact isOneLine_collapse _

/-! ### Plans -/

/-- What a plan puts into lines of its sources is of one line, and its functions have names. -/
structure ProjectPlan.IsWritable (plan : ProjectPlan) : Prop extends plan.IsNamed where
  tools : ∀ module ∈ plan.modules, ∀ tool ∈ module.tools, tool.IsOneLine ∧ IsName tool.name
  paths : ∀ module ∈ plan.modules, ∀ path ∈ module.paths, IsOneLine path
  /-- There is a description, or the lack of one, for each tool. -/
  length_descriptions : plan.texts.descriptions.length = plan.tools.length
  descriptions : ∀ text? ∈ plan.texts.descriptions, ∀ text ∈ text?, IsOneLine text

namespace ProjectPlan

variable {spec : Spec} {settings : Settings} {assistant? : Option Assistant} {asked : Nat}
  {directory source : String} {plan : ProjectPlan} {module : ToolModule}
  {written : List (Option String)}

/-- A plan has a description, or the lack of one, for each tool. -/
theorem length_descriptions_of_make
    (h : make spec settings assistant? asked directory = some plan) :
    plan.texts.descriptions.length = plan.tools.length := by
  obtain ⟨tools, -, rfl⟩ := Option.map_eq_some_iff.mp h
  show (List.map _ _).length = _
  rw [List.length_map, LanguageModel.length_replies, List.length_map]
  rfl

theorem isWritable_of_make (htexts : spec.HasOneLineTexts) (hids : spec.HasOperationIds)
    (h : make spec settings assistant? asked directory = some plan) : plan.IsWritable := by
  have hnamed := isNamed_of_make h
  have hlength := length_descriptions_of_make h
  obtain ⟨tools, htools, rfl⟩ := Option.map_eq_some_iff.mp h
  have htool : ∀ tool ∈ tools, tool.IsOneLine ∧ IsName tool.name := by
    intro tool hmem
    obtain ⟨op, hop, htool⟩ := Spec.exists_of_mem_mapM htools hmem
    have hname := Spec.isName_toolName hids hop
    refine ⟨Spec.isOneLine_tool? htexts hop hname.isOneLine htool, ?_⟩
    rw [(Spec.path_name_of_tool? htool).2]
    exact hname
  have hgrouped := ToolModule.isGrouped_group tools
  have hmodules : ∀ module ∈ ToolModule.group tools, ∀ tool ∈ module.tools,
      tool.IsOneLine ∧ IsName tool.name := fun module hmodule tool hmem =>
    htool tool (hgrouped.perm.subset (List.mem_flatMap.mpr ⟨module, hmodule, hmem⟩))
  refine ⟨hnamed, hmodules, fun module hmodule path hpath => ?_, hlength, ?_⟩
  · obtain ⟨tool, hmem, rfl⟩ := ToolModule.paths_of_mem_group module hmodule path hpath
    exact (hmodules module hmodule tool hmem).1.httpPath
  · intro text? htext? text htext
    obtain ⟨reply?, -, rfl⟩ := List.mem_map.mp htext?
    exact Tool.isOneLine_of_mem_written? htext

/-- The source of a module of tools defines the functions of its tools, in order. -/
theorem map_fst_definitions_moduleFile (h : plan.IsWritable) (hmodule : module ∈ plan.modules)
    (hlength : written.length = module.tools.length)
    (hwritten : ∀ text? ∈ written, ∀ text ∈ text?, IsOneLine text)
    (hsource : Template.tools.render? (plan.moduleFile module written).values = some source) :
    (definitions source).map Prod.fst = module.tools.map Tool.name := by
  have hpairs : ∀ pair ∈ module.tools.zip written, pair.1 ∈ module.tools ∧ pair.2 ∈ written :=
    fun _ hpair => List.of_mem_zip hpair
  have hvalues : (Document.object (plan.moduleFile module written).values).IsOneLine := by
    have hpaths : IsOneLine (join ", " module.paths) :=
      isOneLine_join (by decide) (h.paths module hmodule)
    have hpackage : IsOneLine plan.names.package := (ProjectNames.isName_package h.name).isOneLine
    unfold moduleFile packageFile
    simp only [Document.isOneLine_object, List.forall_mem_cons, Document.isOneLine_text,
      Document.isOneLine_list, List.forall_mem_map]
    refine ⟨hpaths, hpackage, fun pair hpair => ?_, fun _ hnone => absurd hnone List.not_mem_nil⟩
    obtain ⟨htool, htext⟩ := hpairs pair hpair
    exact (h.tools module hmodule pair.1 htool).1.values (hwritten pair.2 htext)
  have hnames : ∀ function ∈ (module.tools.zip written).map fun pair => pair.1.values pair.2,
      ∃ name, function.getText? "name" = some name ∧ IsName name := by
    rw [List.forall_mem_map]
    intro pair hpair
    exact ⟨pair.1.name, rfl, (h.tools module hmodule pair.1 (hpairs pair hpair).1).2⟩
  rw [Template.map_fst_definitions_tools hvalues rfl hnames hsource, List.map_map]
  have hzip : module.tools.map Tool.name = ((module.tools.zip written).map Prod.fst).map Tool.name := by
    rw [List.map_fst_zip hlength.ge]
  rw [hzip, List.map_map]
  rfl

/-- The source of the server registers the functions of all modules, in order. -/
theorem registrations_serverFile (h : plan.IsWritable) (htitle : IsFree plan.names.title.toList)
    (hsource : Template.server.render? (Template.serverValues plan.names.title plan.names.package
      (plan.names.title ++ " MCP Server") plan.registrations) = some source) :
    Audit.registrations source = plan.registrations.flatMap Registration.functions := by
  have hserver : IsFree (plan.names.title ++ " MCP Server").toList := by
    have hsplit : (plan.names.title ++ " MCP Server").toList
        = plan.names.title.toList ++ ' ' :: "MCP Server".toList := by
      rw [String.toList_append]
      rfl
    rw [hsplit, isFree_append (by decide)]
    exact ⟨htitle, by decide⟩
  refine Template.registrations_server htitle hserver (ProjectNames.isName_package h.name) ?_ hsource
  intro registration hregistration
  obtain ⟨module, hmodule, rfl⟩ := List.mem_map.mp hregistration
  refine ⟨h.stems module hmodule, List.forall_mem_map.mpr fun tool htool => ?_⟩
  exact (h.tools module hmodule tool htool).2

end ProjectPlan

/-! ### Sources that were written -/

/-- What a file is filled in with, before any formatter comes to it. -/
def Artifact.source (artifact : Artifact) : Except TemplateError String :=
  Template.renderNamed artifact.template.text (.object artifact.values)

theorem Artifact.source_eq_ok {artifact : Artifact} {source : String} :
    artifact.source = .ok source ↔
      artifact.template.template.render? artifact.values = some source := by
  have hname : TemplateName.ofText? artifact.template.text = some artifact.template := by
    cases artifact.template <;> decide
  have hmembers : (Document.object artifact.values).members? = some artifact.values := rfl
  unfold Artifact.source Template.renderNamed
  simp only [hmembers, hname, Option.bind_some]
  rcases artifact.template.template.render? artifact.values with _ | text
  · simp
  · simp

/-- An essential file of a project that was written could be filled in. -/
theorem Writer.source_of_isEssential {writer : Writer (StateM FileTree)} {artifacts : List Artifact}
    {artifact : Artifact} {report after : EmitReport} {tree tree' : FileTree}
    (h : (artifacts.foldlM writer.emitArtifact report).run.run tree = (.ok after, tree'))
    (hmem : artifact ∈ artifacts) (hessential : artifact.isEssential = true) :
    ∃ source, artifact.source = .ok source := by
  induction artifacts generalizing report tree with
  | nil => cases hmem
  | cons first rest ih =>
    rw [List.foldlM_cons] at h
    obtain ⟨next, between, hfirst, hrest⟩ := run_bind_ok h
    rcases List.mem_cons.mp hmem with rfl | hmem
    · rcases emitArtifact_eq_ok hfirst with ⟨rendered, hrun, -⟩ | ⟨cause, -, hnot, -⟩
      · rcases render_cases writer artifact.path artifact.template (.object artifact.values) with
          ⟨cause, -, hrender⟩ | ⟨content, hcontent, -⟩
        · rw [hrender] at hrun
          cases hrun
        · exact ⟨content, hcontent⟩
      · rw [hessential] at hnot
        cases hnot
    · exact ih hrest hmem

namespace ProjectPlan

variable {plan : ProjectPlan}

/-- The file of the server. -/
def serverFile (plan : ProjectPlan) : Artifact :=
  plan.packageFile ["server.py"] .server
    (Template.serverValues plan.names.title plan.names.package (plan.names.title ++ " MCP Server")
      plan.registrations)

theorem filter_moduleFilesFrom (plan : ProjectPlan) (template : TemplateName)
    (modules : List ToolModule) (written : List (Option String)) :
    (plan.moduleFilesFrom modules written).filter (·.template = template)
      = if template = .tools then plan.moduleFilesFrom modules written else [] := by
  induction modules generalizing written with
  | nil => split_ifs <;> rfl
  | cons module rest ih =>
    have htemplate : (plan.moduleFile module (written.take module.tools.length)).template
        = .tools := rfl
    rw [moduleFilesFrom, List.filter_cons, ih, htemplate]
    split_ifs with h h' h' <;> simp_all

/-- The files that the template of the tools is for. -/
theorem filter_tools_artifacts (plan : ProjectPlan) :
    plan.artifacts.filter (·.template = .tools)
      = plan.moduleFilesFrom plan.modules plan.texts.descriptions := by
  unfold artifacts
  simp only [List.filter_append, toolFiles, filter_moduleFilesFrom]
  cases plan.settings.generateAgent <;>
    simp [clientFiles, modelFiles, modelFile, packageFile, serverFiles, projectFile, agentFiles,
      guideFiles, List.filter_map, Function.comp_def]

/-- The only file that the template of the server is for. -/
theorem filter_server_artifacts (plan : ProjectPlan) :
    plan.artifacts.filter (·.template = .server) = [plan.serverFile] := by
  unfold artifacts
  simp only [List.filter_append, toolFiles, filter_moduleFilesFrom]
  cases plan.settings.generateAgent <;>
    simp [clientFiles, modelFiles, modelFile, packageFile, serverFiles, projectFile, agentFiles,
      guideFiles, List.filter_map, Function.comp_def, serverFile, Template.serverValues]

/-- What a module registers. -/
def registrationOf (module : ToolModule) : Registration :=
  ⟨module.stem, module.tools.map Tool.name⟩

/-- The files of the modules are filled in from the modules, each with as many of the descriptions
as it has tools. -/
theorem forall₂_moduleFilesFrom {R : Artifact → ToolModule → Prop} {modules : List ToolModule}
    {written : List (Option String)}
    (hlength : written.length = (modules.flatMap ToolModule.tools).length)
    (h : ∀ module ∈ modules, ∀ part ⊆ written, part.length = module.tools.length →
      plan.moduleFile module part ∈ plan.moduleFilesFrom modules written →
        R (plan.moduleFile module part) module) :
    List.Forall₂ R (plan.moduleFilesFrom modules written) modules := by
  induction modules generalizing written with
  | nil => exact .nil
  | cons module rest ih =>
    rw [List.forall_mem_cons] at h
    rw [List.flatMap_cons, List.length_append] at hlength
    have htake : (written.take module.tools.length).length = module.tools.length := by
      rw [List.length_take]
      omega
    have hdrop : (written.drop module.tools.length).length
        = (rest.flatMap ToolModule.tools).length := by
      rw [List.length_drop]
      omega
    refine .cons (h.1 _ (List.take_subset ..) htake (List.mem_cons_self ..)) (ih hdrop ?_)
    intro other hother part hpart hpartLength hmem
    exact h.2 other hother part (List.Subset.trans hpart (List.drop_subset ..)) hpartLength
      (List.mem_cons_of_mem _ hmem)

/-- Is the file the module of the registration, and does its source define the functions that are
registered for it, in order? -/
structure IsModuleOf (plan : ProjectPlan) (artifact : Artifact) (registration : Registration) :
    Prop where
  path : artifact.path = plan.pathOf [plan.names.package, "tools", registration.module ++ ".py"]
  source : ∃ source, artifact.source = .ok source ∧
    (definitions source).map Prod.fst = registration.functions

/-- Is the file that of the server, and does its source register all functions, in order? -/
structure IsServerOf (plan : ProjectPlan) (artifact : Artifact) (registrations : List Registration) :
    Prop where
  path : artifact.path = plan.pathOf [plan.names.package, "server.py"]
  source : ∃ source, artifact.source = .ok source ∧
    Audit.registrations source = registrations.flatMap Registration.functions

variable {writer : Writer (StateM FileTree)} {report : EmitReport} {tree tree' : FileTree}

/-- The modules of tools of a project that is written define what is registered for them, module by
module. -/
theorem forall₂_isModuleOf (h : plan.IsWritable)
    (hrun : (writer.emit plan).run.run tree = (.ok report, tree')) :
    List.Forall₂ plan.IsModuleOf (plan.artifacts.filter (·.template = .tools))
      plan.registrations := by
  have hmem : ∀ artifact ∈ plan.moduleFilesFrom plan.modules plan.texts.descriptions,
      artifact ∈ plan.artifacts := by
    rw [← filter_tools_artifacts]
    exact fun _ => List.mem_of_mem_filter
  rw [filter_tools_artifacts]
  show List.Forall₂ _ _ (plan.modules.map registrationOf)
  rw [List.forall₂_map_right_iff]
  refine forall₂_moduleFilesFrom h.length_descriptions fun module hmodule part hpart hlength hfile => ?_
  obtain ⟨source, hsource⟩ := Writer.source_of_isEssential hrun (hmem _ hfile) rfl
  refine ⟨rfl, source, hsource, ?_⟩
  exact map_fst_definitions_moduleFile h hmodule hlength
    (fun text? htext => h.descriptions text? (hpart htext)) (Artifact.source_eq_ok.mp hsource)

/-- The server of a project that is written registers the functions of all modules. -/
theorem isServerOf_serverFile (h : plan.IsWritable) (htitle : IsFree plan.names.title.toList)
    (hrun : (writer.emit plan).run.run tree = (.ok report, tree')) :
    plan.IsServerOf plan.serverFile plan.registrations := by
  have hmem : plan.serverFile ∈ plan.artifacts :=
    List.mem_of_mem_filter (filter_server_artifacts plan ▸ List.mem_singleton_self _)
  obtain ⟨source, hsource⟩ := Writer.source_of_isEssential hrun hmem rfl
  exact ⟨rfl, source, hsource,
    registrations_serverFile h htitle (Artifact.source_eq_ok.mp hsource)⟩

end ProjectPlan

end ApiTools
