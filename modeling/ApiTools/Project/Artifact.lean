import ApiTools.Files.Path
import ApiTools.Project.Assist

/-!
# The files of a project

Each file is a template with the values that fill it.  The project does not work without those that
are essential; the others may fail.
-/

namespace ApiTools

/-- A file of a project. -/
structure Artifact where
  path : String
  template : TemplateName
  values : List (String × Document)
  isEssential : Bool

/-- The tools that a module registers. -/
structure Registration where
  module : String
  functions : List String
  deriving DecidableEq, Repr

/-- Everything that the files of a project depend on. -/
structure ProjectPlan where
  spec : Spec
  settings : Settings
  names : ProjectNames
  /-- The directory of the project. -/
  directory : String
  modules : List ToolModule
  texts : ProjectTexts

namespace ProjectPlan

/-- The plan of the project for an API description. -/
def make (spec : Spec) (settings : Settings) (assistant? : Option Assistant) (asked : Nat)
    (directory : String) : Option ProjectPlan :=
  spec.tools?.map fun tools =>
    let names := ProjectNames.ofSpec spec settings
    let modules := ToolModule.group tools
    { spec, settings, names, directory, modules
      texts := .write settings assistant? asked names.title (modules.flatMap ToolModule.tools) }

variable (plan : ProjectPlan)

/-- The tools, module by module. -/
def tools : List Tool := plan.modules.flatMap ToolModule.tools

/-- The directory of the server package. -/
def packageDirectory : String := Path.join plan.directory plan.names.package

/-- The URL of the API. -/
def baseUrl : String := plan.spec.basePath?.getD "http://localhost:8000"

/-- The description of the project. -/
def description : String :=
  plan.settings.description?.getD ("MCP server for the " ++ plan.names.title ++ " API")

/-- An essential file of the server package. -/
def packageFile (parts : List String) (template : TemplateName)
    (values : List (String × Document)) : Artifact :=
  ⟨parts.foldl Path.join plan.packageDirectory, template, values, true⟩

/-- The files of the HTTP client. -/
def clientFiles : List Artifact :=
  [plan.packageFile ["api", "client.py"] .client
      [("title", .text plan.names.title), ("base_url", .text plan.baseUrl),
        ("env_prefix", .text plan.names.variableLead)],
    plan.packageFile ["api", "__init__.py"] .package
      [("doc", .text "HTTP client for the API."), ("exports", .list [])]]

/-- The schemas that models are made for. -/
def schemas : List (String × Document) := plan.spec.schemas?.getD []

/-- The stem of the module of a schema. -/
def modelStem (schemaName : String) : String := Naming.stem (Naming.snakeCase schemaName) "model"

/-- The file of the model of a schema. -/
def modelFile (name : String) (schema : Document) : Artifact :=
  plan.packageFile ["models", modelStem name ++ ".py"] .model
    (((plan.spec.modelValues name schema).members?).getD [])

/-- The files of the models. -/
def modelFiles : List Artifact :=
  [plan.packageFile ["models", "base.py"] .baseModels [("title", .text plan.names.title)]]
    ++ (plan.schemas.map fun (name, schema) => plan.modelFile name schema)
    ++ [plan.packageFile ["models", "__init__.py"] .package
      [("doc", .text "Data models for the API."),
        ("exports", .ofTexts ("base" :: plan.schemas.map fun (name, _) => modelStem name))]]

/-- The file of a module of tools, given the descriptions that were written for its tools. -/
def moduleFile (module : ToolModule) (written : List (Option String)) : Artifact :=
  plan.packageFile ["tools", module.stem ++ ".py"] .tools
    [("path", .text (Text.join ", " module.paths)), ("package", .text plan.names.package),
      ("functions", .list ((module.tools.zip written).map fun (tool, text?) => tool.values text?))]

/-- The files of the modules of tools, given the descriptions that were written for all tools. -/
def moduleFilesFrom : List ToolModule → (written : List (Option String)) → List Artifact
  | [], _ => []
  | module :: rest, written =>
    plan.moduleFile module (written.take module.tools.length)
      :: moduleFilesFrom rest (written.drop module.tools.length)

/-- What the modules register. -/
def registrations : List Registration :=
  plan.modules.map fun module => ⟨module.stem, module.tools.map Tool.name⟩

/-- The files of the tools. -/
def toolFiles : List Artifact :=
  plan.moduleFilesFrom plan.modules plan.texts.descriptions
    ++ [plan.packageFile ["tools", "__init__.py"] .package
      [("doc", .text ("Tool modules for the " ++ plan.names.title ++ " API.")),
        ("exports", .ofTexts (plan.modules.map ToolModule.stem))]]

/-- The values for the registrations of a module. -/
def registrationValues (registration : Registration) : Document :=
  .object [("module", .text registration.module), ("functions", .ofTexts registration.functions)]

/-- The files of the server. -/
def serverFiles : List Artifact :=
  [plan.packageFile ["server.py"] .server
      [("title", .text plan.names.title), ("package", .text plan.names.package),
        ("server_name", .text (plan.names.title ++ " MCP Server")),
        ("modules", .list (plan.registrations.map registrationValues))],
    plan.packageFile ["__init__.py"] .package
      [("doc", .text (plan.names.title ++ " MCP server package.")),
        ("version", .text plan.settings.version), ("exports", .list [])]]

/-- The description of the project for its build. -/
def projectFile : Artifact :=
  let packages := plan.names.package
    :: (if plan.settings.generateAgent then [plan.names.agentPackage] else [])
  ⟨Path.join plan.directory "pyproject.toml", .projectFile,
    [("package", .text plan.names.package), ("version", .text plan.settings.version),
      ("description", .text plan.description), ("author", .text plan.settings.author),
      ("email", .ofText? plan.settings.email?), ("license", .text plan.settings.license),
      ("python_version", .text plan.settings.pythonVersion), ("packages", .ofTexts packages)],
    true⟩

/-- The files of the agent package. -/
def agentFiles : List Artifact :=
  let directory := Path.join plan.directory plan.names.agentPackage
  [⟨Path.join directory "__init__.py", .agentPackage,
      [("title", .text plan.names.title), ("package", .text plan.names.package),
        ("agent_package", .text plan.names.agentPackage)], false⟩,
    ⟨Path.join directory "prompts.py", .agentPrompts,
      [("title", .text plan.names.title), ("system_prompt", .text plan.texts.agentTask),
        ("tools", .ofTexts (plan.tools.map Tool.name))], false⟩]

/-- The files that help to begin with a project that has no agent. -/
def guideFiles : List Artifact :=
  [⟨Path.join plan.directory ".env.example", .environment,
      [("env_prefix", .text plan.names.variableLead), ("base_url", .text plan.baseUrl)], false⟩,
    ⟨Path.join plan.directory "README.md", .readme,
      [("title", .text plan.names.title), ("description", .text plan.description),
        ("package", .text plan.names.package),
        ("tools", .list (plan.tools.map Tool.readmeValues))], false⟩]

/-- All files, in the order in which they are written. -/
def artifacts : List Artifact :=
  plan.clientFiles ++ plan.modelFiles ++ plan.toolFiles ++ plan.serverFiles ++ [plan.projectFile]
    ++ (if plan.settings.generateAgent then plan.agentFiles else plan.guideFiles)

end ProjectPlan

end ApiTools
