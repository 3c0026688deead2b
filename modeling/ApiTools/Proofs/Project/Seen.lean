import ApiTools.Proofs.Naming.Paths
import ApiTools.Proofs.Project.Sources

/-!
# Which tools an audit sees

Every tool of a project that is written has its definition in a module of tools
(`Enhancer.exists_definition_of_emit`).  A search for definitions finds identifiers only
(`Audit.isIdentifier_of_mem_definitions`), and it finds a definition whose name is one whatever
stands before its line (`Audit.mem_definitions`).  So a tool is seen exactly where its name is an
identifier, which depends on the path where the operation has no identifier
(`Enhancer.isIdentifier_name_iff`).
-/

namespace ApiTools

open Naming Text

/-! ### Definitions that are found -/

namespace Audit

variable {name source : String} {cs more : List Char} {atStart : Bool}

theorem isIdentifier_of_called? (h : called? cs = some name) : IsIdentifier name := by
  unfold called? at h
  dsimp only at h
  split at h
  · next c tail rest hname hrest =>
    split_ifs at h with hstart
    cases h
    unfold isNameStart at hstart
    rw [Bool.and_eq_true, Bool.not_eq_true'] at hstart
    refine ⟨⟨c, tail, String.toList_ofList.trans hname, hstart.2⟩, ?_⟩
    rw [String.toList_ofList]
    exact List.all_eq_true.mp List.all_takeWhile
  · cases h

theorem isIdentifier_of_defined? (h : defined? cs = some name) : IsIdentifier name := by
  obtain ⟨afterAsync, -, h⟩ := Option.bind_eq_some_iff.mp h
  obtain ⟨afterBlanks, -, h⟩ := Option.bind_eq_some_iff.mp h
  obtain ⟨afterDef, -, h⟩ := Option.bind_eq_some_iff.mp h
  obtain ⟨rest, -, h⟩ := Option.bind_eq_some_iff.mp h
  exact isIdentifier_of_called? h

theorem isIdentifier_of_mem_definedNames (h : name ∈ definedNames atStart cs) :
    IsIdentifier name := by
  induction cs generalizing atStart with
  | nil => cases h
  | cons c rest ih =>
    rw [definedNames_cons, List.mem_append, Option.mem_toList] at h
    rcases h with hfirst | hrest
    · split_ifs at hfirst
      exact isIdentifier_of_defined? hfirst
    · exact ih hrest

/-- Only identifiers are found. -/
theorem isIdentifier_of_mem_definitions (h : name ∈ (definitions source).map Prod.fst) :
    IsIdentifier name := by
  rw [map_fst_definitions] at h
  exact isIdentifier_of_mem_definedNames h

/-- What is found from the beginning of a line on is found whatever stands before the line. -/
theorem mem_definedNames_append (h : name ∈ definedNames true more) (cs : List Char) :
    name ∈ definedNames atStart (cs ++ '\n' :: more) := by
  induction cs generalizing atStart with
  | nil =>
    rw [List.nil_append, definedNames_cons]
    exact List.mem_append_right _ h
  | cons c rest ih =>
    rw [List.cons_append, definedNames_cons]
    exact List.mem_append_right _ ih

/-- Is there a line in the text in which a definition of the name begins? -/
def HasDefinition (source name : String) : Prop :=
  ∃ before after, source.toList
    = before ++ '\n' :: ("async def ".toList ++ (name.toList ++ '(' :: after))

/-- A definition whose name is one is found. -/
theorem mem_definitions (h : HasDefinition source name) (hname : IsName name) :
    name ∈ (definitions source).map Prod.fst := by
  obtain ⟨before, after, hsource⟩ := h
  rw [map_fst_definitions, hsource]
  refine mem_definedNames_append ?_ before
  rw [definedNames_definition hname]
  exact List.mem_cons_self ..

end Audit

open Audit

/-! ### Definitions that are written -/

namespace Template

variable {scope : Scope} {name source : String} {cs : List Char}

/-- A module of tools has a definition for each function that it is filled in from. -/
theorem hasDefinition_tools {values : Members} {functions : List Document} {function : Document}
    (hfunctions : Members.get? values "functions" = some (.list functions))
    (hmem : function ∈ functions) (hname : function.get? "name" = some (.text name))
    (h : tools.render? values = some source) : HasDefinition source name := by
  obtain ⟨cs, hcs, rfl⟩ := Option.map_eq_some_iff.mp h
  have hsplit : tools = tools.take 6 ++ [.each "f" ["functions"] toolDefinition, .text "\n"] := rfl
  rw [hsplit] at hcs
  obtain ⟨front, rest, -, hrest, rfl⟩ := partsChars?_append_eq_some.mp hcs
  obtain ⟨body, ending, hbody, -, rfl⟩ := partsChars?_cons_eq_some.mp hrest
  rw [Part.chars?, Scope.find?_globals hfunctions] at hbody
  obtain ⟨texts, htexts, rfl⟩ := Option.map_eq_some_iff.mp hbody
  -- The function is one of the items, and its definition is one of the texts.
  obtain ⟨⟨value, isLast⟩, hentry, rfl⟩ : ∃ entry ∈ markLast functions, entry.1 = function :=
    List.mem_map.mp (by rwa [map_fst_markLast])
  obtain ⟨definition, hdefinition, hwritten⟩ := Spec.exists_mem_of_mapM htexts hentry
  have hfound : (Scope.enter ⟨[], values⟩ ⟨"f", value, isLast⟩).find? ["f", "name"]
      = some (.text name) :=
    Scope.find?_enter_self _ isLast (by simp [Scope.along?, hname])
  obtain ⟨after, -, rfl⟩ := exists_head_toolDefinition hfound hwritten
  obtain ⟨earlier, later, hsplit⟩ := List.append_of_mem hdefinition
  refine ⟨front ++ earlier.flatten ++ ['\n'], after ++ (later.flatten ++ ending), ?_⟩
  rw [String.toList_ofList, hsplit, List.flatten_append, List.flatten_cons]
  simp only [List.append_assoc, List.cons_append, List.nil_append]

end Template

namespace ProjectPlan

variable {plan : ProjectPlan} {module : ToolModule} {tool : Tool} {source : String}

/-- Every module has its file, with as many of the descriptions as it has tools. -/
theorem exists_moduleFile (hlength : plan.texts.descriptions.length = plan.tools.length)
    (hmodule : module ∈ plan.modules) :
    ∃ part : List (Option String), part.length = module.tools.length ∧
      plan.moduleFile module part ∈ plan.artifacts.filter (·.template = .tools) := by
  rw [filter_tools_artifacts]
  have hfiles : List.Forall₂ (fun file module => ∃ part : List (Option String),
        part.length = module.tools.length ∧ file = plan.moduleFile module part)
      (plan.moduleFilesFrom plan.modules plan.texts.descriptions) plan.modules :=
    forall₂_moduleFilesFrom hlength fun module _ part _ hpart _ => ⟨part, hpart, rfl⟩
  obtain ⟨file, hfile, part, hpart, rfl⟩ := Spec.exists_of_forall₂ hfiles hmodule
  exact ⟨part, hpart, hfile⟩

/-- The file of a module has the definitions of the tools of the module. -/
theorem hasDefinition_moduleFile {part : List (Option String)}
    (hlength : part.length = module.tools.length) (htool : tool ∈ module.tools)
    (hsource : (plan.moduleFile module part).source = .ok source) :
    HasDefinition source tool.name := by
  obtain ⟨text?, hpair⟩ : ∃ text?, (tool, text?) ∈ module.tools.zip part := by
    have hzip : (module.tools.zip part).map Prod.fst = module.tools :=
      List.map_fst_zip hlength.ge
    rw [← hzip] at htool
    obtain ⟨⟨_, text?⟩, hpair, rfl⟩ := List.mem_map.mp htool
    exact ⟨text?, hpair⟩
  exact Template.hasDefinition_tools rfl
    (List.mem_map_of_mem (f := fun pair : Tool × Option String => pair.1.values pair.2) hpair) rfl
    (Artifact.source_eq_ok.mp hsource)

/-- The tool of an operation is in one of the modules. -/
theorem exists_module_of_make {spec : Spec} {op : Operation} {settings : Settings}
    {assistant? : Option Assistant} {asked : Nat} {directory : String}
    (h : make spec settings assistant? asked directory = some plan) (hop : op ∈ spec.operations)
    (htool : spec.tool? op = some tool) : ∃ module ∈ plan.modules, tool ∈ module.tools := by
  obtain ⟨tools, htools, rfl⟩ := Option.map_eq_some_iff.mp h
  obtain ⟨found, hmem, hfound⟩ := Spec.exists_mem_of_mapM htools hop
  obtain rfl : found = tool := Option.some.inj (hfound.symm.trans htool)
  exact List.mem_flatMap.mp ((ToolModule.isGrouped_group tools).perm.symm.subset hmem)

end ProjectPlan

namespace Enhancer

variable {enhancer : Enhancer (StateM FileTree)} {spec : Spec} {op : Operation} {tool : Tool}
  {asked : Nat} {directory : String} {report : EmitReport} {questions : List Question}
  {tree tree' : FileTree}

/-- In a project that is written a module of tools has the definition of the tool. -/
theorem exists_definition_of_emit (hop : op ∈ spec.operations) (htool : spec.tool? op = some tool)
    (h : (enhancer.emit spec asked directory).run.run tree = (.ok (report, questions), tree')) :
    ∃ plan artifact source,
      ProjectPlan.make spec enhancer.settings enhancer.assistant? asked directory = some plan ∧
      artifact ∈ plan.artifacts.filter (·.template = .tools) ∧ artifact.source = .ok source ∧
      HasDefinition source tool.name := by
  obtain ⟨plan, hplan, hwritten, -⟩ := emit_cases h
  obtain ⟨module, hmodule, hmem⟩ := ProjectPlan.exists_module_of_make hplan hop htool
  obtain ⟨part, hpart, hfile⟩ :=
    ProjectPlan.exists_moduleFile (ProjectPlan.length_descriptions_of_make hplan) hmodule
  obtain ⟨source, hsource⟩ :=
    Writer.source_of_isEssential hwritten (List.mem_of_mem_filter hfile) rfl
  exact ⟨plan, _, source, hplan, hfile, hsource,
    ProjectPlan.hasDefinition_moduleFile hpart hmem hsource⟩

/-- The name of a tool is an identifier exactly where its operation has an identifier that is not
blank, or where its path is made of letters, digits and underscores of ASCII, slashes, hyphens,
points, braces and the sign for the unit kelvin.  A project that is written has the definition of
the tool in a module in any case, and the definition is found exactly where the name is one. -/
theorem isIdentifier_name_iff (htool : spec.tool? op = some tool) :
    (IsIdentifier tool.name ↔
      (∃ id, op.operationId? = some id ∧ isBlankText id = false) ∨
        ∀ c ∈ op.path.toList, isPathChar c = true) ∧
    ∀ (enhancer : Enhancer (StateM FileTree)) (asked : Nat) (directory : String)
      (report : EmitReport) (questions : List Question) (tree tree' : FileTree),
      op ∈ spec.operations →
      (enhancer.emit spec asked directory).run.run tree = (.ok (report, questions), tree') →
      ∃ plan artifact source,
        ProjectPlan.make spec enhancer.settings enhancer.assistant? asked directory = some plan ∧
        artifact ∈ plan.artifacts.filter (·.template = .tools) ∧ artifact.source = .ok source ∧
        HasDefinition source tool.name ∧
        (tool.name ∈ (definitions source).map Prod.fst ↔ IsIdentifier tool.name) := by
  have hname : tool.name = Spec.toolName op := (Spec.path_name_of_tool? htool).2
  refine ⟨hname ▸ Spec.isIdentifier_toolName_iff op, ?_⟩
  intro enhancer asked directory report questions tree tree' hop hrun
  obtain ⟨plan, artifact, source, hplan, hartifact, hsource, hdefinition⟩ :=
    exists_definition_of_emit hop htool hrun
  refine ⟨plan, artifact, source, hplan, hartifact, hsource, hdefinition,
    isIdentifier_of_mem_definitions, fun hidentifier => mem_definitions hdefinition ?_⟩
  rw [hname] at hidentifier ⊢
  exact Spec.isName_toolName_of_isIdentifier hidentifier

/-- A description of one operation, which has no identifier and a colon in its path. -/
def archiveSpec : Spec :=
  ⟨.object [("paths", .object [("/pets/\x7bid\x7d:archive", .object [("post", .object [])])])]⟩

/-- The colon is in the name of its tool. -/
theorem exists_tool_archiveSpec : ∃ op ∈ archiveSpec.operations, ∃ tool,
    archiveSpec.tool? op = some tool ∧ tool.name = "post_pets_id:archive" ∧
      ¬ IsIdentifier tool.name := by
  have hnames : (archiveSpec.operations.map fun op => (archiveSpec.tool? op).map Tool.name)
      = [some "post_pets_id:archive"] := by
    decide
  obtain ⟨op, hop, hname⟩ := List.map_eq_singleton_iff.mp hnames
  obtain ⟨tool, htool, hname⟩ := Option.map_eq_some_iff.mp hname
  refine ⟨op, hop ▸ List.mem_singleton_self _, tool, htool, hname, fun hidentifier => ?_⟩
  have hcolon := hidentifier.chars ':' (by rw [hname]; decide)
  exact absurd hcolon (by decide)

/-- The definition of this tool is written, and it is not found. -/
theorem isIdentifier_name_iff_archiveSpec :
    ∃ op tool report questions tree, archiveSpec.tool? op = some tool ∧
      op ∈ archiveSpec.operations ∧
      (dryRun.emit archiveSpec 0 "out").run.run .empty = (.ok (report, questions), tree) ∧
      ∃ source, HasDefinition source "post_pets_id:archive" ∧
        "post_pets_id:archive" ∉ (definitions source).map Prod.fst := by
  obtain ⟨op, hop, tool, htool, hname, hcolon⟩ := exists_tool_archiveSpec
  have hok : ((dryRun.emit archiveSpec 0 "out").run.run .empty).1.isOk = true := rfl
  obtain ⟨⟨report, questions⟩, tree, hrun⟩ := exists_run_of_isOk hok
  obtain ⟨-, hseen⟩ := isIdentifier_name_iff htool
  obtain ⟨plan, artifact, source, -, -, -, hdefinition, hfound⟩ :=
    hseen dryRun 0 "out" report questions .empty tree hop hrun
  rw [← hfound, hname] at hcolon
  rw [hname] at hdefinition
  exact ⟨op, tool, report, questions, tree, htool, hop, hrun, source, hdefinition, hcolon⟩

/-- Not every tool has an identifier for its name. -/
theorem not_isIdentifier_name :
    ¬ ∀ (spec : Spec) (op : Operation) (tool : Tool), op ∈ spec.operations →
      spec.tool? op = some tool → IsIdentifier tool.name := by
  intro hall
  obtain ⟨op, hop, tool, htool, -, hcolon⟩ := exists_tool_archiveSpec
  exact hcolon (hall archiveSpec op tool hop htool)

end Enhancer

end ApiTools
