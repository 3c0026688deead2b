import ApiTools.Naming.Generated
import ApiTools.Settings
import ApiTools.Tool.Extract

/-!
# Projects

A project is generated for an API description: a server package with a module of tools for each
path, and an agent package where one is wanted.
-/

namespace ApiTools

/-- The names of a project. -/
structure ProjectNames where
  title : String
  /-- The stem that the names of the packages share. -/
  name : String
  deriving DecidableEq, Repr

namespace ProjectNames

/-- The names of the project for an API description.  The title in the settings wins. -/
def ofSpec (spec : Spec) (settings : Settings) : ProjectNames :=
  let title := (settings.title?.orElse fun _ => spec.title?).getD "Generated API"
  ⟨title, Naming.stem (Naming.snakeCase title) "api"⟩

/-- The name of the server package. -/
def package (names : ProjectNames) : String := "mcp_" ++ names.name

/-- The name of the agent package. -/
def agentPackage (names : ProjectNames) : String := "agent_" ++ names.name

/-- What the names of the environment's variables begin with. -/
def variableLead (names : ProjectNames) : String := Text.uppercase names.name

end ProjectNames

/-- A module of tools. -/
structure ToolModule where
  stem : String
  /-- The paths of its tools, each once. -/
  paths : List String
  tools : List Tool

namespace ToolModule

/-- The stem of the module for a path. -/
def stemOf (path : String) : String := Naming.stem (Naming.moduleName path) "path"

/-- The module with one more tool. -/
def add (module : ToolModule) (tool : Tool) : ToolModule :=
  { module with
    paths :=
      if module.paths.contains tool.httpPath then module.paths
      else module.paths ++ [tool.httpPath]
    tools := module.tools ++ [tool] }

/-- The modules with one more tool: in the module with its stem, or in a new one at the end. -/
def insert (tool : Tool) : List ToolModule → List ToolModule
  | [] => [⟨stemOf tool.httpPath, [tool.httpPath], [tool]⟩]
  | module :: rest =>
    if module.stem = stemOf tool.httpPath then module.add tool :: rest
    else module :: insert tool rest

/-- The modules of tools. -/
def group (tools : List Tool) : List ToolModule :=
  tools.foldl (fun modules tool => insert tool modules) []

end ToolModule

end ApiTools
