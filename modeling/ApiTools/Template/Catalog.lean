import ApiTools.Template.Agent
import ApiTools.Template.Metadata
import ApiTools.Template.Models
import ApiTools.Template.Server

/-!
# All templates by name
-/

namespace ApiTools

/-- The templates. -/
inductive TemplateName where
  | client
  | tools
  | server
  | baseModels
  | model
  | package
  | projectFile
  | environment
  | readme
  | agentPackage
  | agentPrompts
  deriving DecidableEq, Repr

namespace TemplateName

/-- All templates. -/
def all : List TemplateName :=
  [client, tools, server, baseModels, model, package, projectFile, environment, readme,
    agentPackage, agentPrompts]

/-- The name of the template. -/
def text : TemplateName → String
  | client => "client.py.tera"
  | tools => "tool.py.tera"
  | server => "server.py.tera"
  | baseModels => "models_base.py.tera"
  | model => "model.py.tera"
  | package => "init.py.tera"
  | projectFile => "pyproject.toml.tera"
  | environment => "env.example.tera"
  | readme => "README.md.tera"
  | agentPackage => "agent_init.py.tera"
  | agentPrompts => "agent_prompts.py.tera"

/-- The template with the name. -/
def ofText? (name : String) : Option TemplateName := all.find? (·.text = name)

/-- The parts of the template. -/
def template : TemplateName → Template
  | client => Template.client
  | tools => Template.tools
  | server => Template.server
  | baseModels => Template.baseModels
  | model => Template.model
  | package => Template.package
  | projectFile => Template.projectFile
  | environment => Template.environment
  | readme => Template.readme
  | agentPackage => Template.agentPackage
  | agentPrompts => Template.agentPrompts

end TemplateName

/-- Why a template gives no text. -/
inductive TemplateError where
  /-- The values are not given as an object. -/
  | notAnObject
  /-- There is no such template, or a value is missing or of the wrong kind. -/
  | unrenderable (name : String)
  deriving DecidableEq, Repr

namespace TemplateError

/-- The wording of the error. -/
def message : TemplateError → String
  | notAnObject => "Template engine error"
  | unrenderable name => "Template error: Failed to render template '" ++ name ++ "'"

end TemplateError

namespace Template

/-- The text of the template with a name, filled in from a document. -/
def renderNamed (name : String) (values : Document) : Except TemplateError String :=
  match values.members? with
  | none => .error .notAnObject
  | some members =>
    match (TemplateName.ofText? name).bind (·.template.render? members) with
    | some text => .ok text
    | none => .error (.unrenderable name)

end Template

end ApiTools
