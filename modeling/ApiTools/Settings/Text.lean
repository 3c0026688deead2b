import ApiTools.Record
import ApiTools.Settings
import ApiTools.Text.Blank
import ApiTools.Yaml.Write

/-!
# Settings as text

Settings are records in which every field may be missing.  `Settings.read?` reads the text of a
settings file and `Settings.yaml` writes one.
-/

namespace ApiTools

open Record

variable {α : Type} [Source α]

/-- Reads the settings of overlay generation. -/
def OverlaySettings.ofRecord? (value : α) : Option OverlaySettings := do
  let fields ← Source.fields? ["enabled", "use_llm", "max_description_length",
    "enhance_crud_operations", "add_use_cases", "enhance_parameters", "add_parameter_guidance",
    "agentic_focus", "enhance_docstrings"] value
  let default : OverlaySettings := {}
  return { enabled := ← withDefault fields "enabled" default.enabled Source.flag?
           useModel := ← withDefault fields "use_llm" default.useModel Source.flag?
           maxDescriptionLength := ← withDefault fields "max_description_length"
             default.maxDescriptionLength Source.natural?
           describeOperations := ← withDefault fields "enhance_crud_operations"
             default.describeOperations Source.flag?
           addUseCases := ← withDefault fields "add_use_cases" default.addUseCases Source.flag?
           describeParameters := ← withDefault fields "enhance_parameters"
             default.describeParameters Source.flag?
           addParameterGuidance := ← withDefault fields "add_parameter_guidance"
             default.addParameterGuidance Source.flag?
           summarize := ← withDefault fields "agentic_focus" default.summarize Source.flag?
           describeTools := ← withDefault fields "enhance_docstrings" default.describeTools
             Source.flag? }

/-- Reads the settings of a gateway's backend. -/
def BackendSettings.ofRecord? (value : α) : Option BackendSettings := do
  let fields ← Source.fields? ["host", "port", "path"] value
  let default : BackendSettings := {}
  return { host := ← withDefault fields "host" default.host Source.text?
           port := ← withDefault fields "port" default.port port?
           path := ← withDefault fields "path" default.path Source.text? }

/-- The age that a document gives: a number of seconds or a text. -/
def MaxAge.ofDocument? : Document → Option MaxAge
  | .number n => n.natural?.map .seconds
  | .text s => some (.duration s)
  | _ => none

/-- Reads the settings of requests from other origins. -/
def CorsSettings.ofRecord? (value : α) : Option CorsSettings := do
  let fields ← Source.fields? ["enabled", "allow_origins", "allow_methods", "allow_headers",
    "expose_headers", "max_age"] value
  let default : CorsSettings := {}
  return { enabled := ← withDefault fields "enabled" default.enabled Source.flag?
           allowOrigins := ← withDefault fields "allow_origins" default.allowOrigins texts?
           allowMethods := ← withDefault fields "allow_methods" default.allowMethods texts?
           allowHeaders := ← withDefault fields "allow_headers" default.allowHeaders texts?
           exposeHeaders := ← withDefault fields "expose_headers" default.exposeHeaders texts?
           maxAge := ← withDefault fields "max_age" default.maxAge fun age =>
             (Source.document? age).bind MaxAge.ofDocument? }

/-- Reads the settings of a gateway. -/
def GatewaySettings.ofRecord? (value : α) : Option GatewaySettings := do
  let fields ← Source.fields? ["port", "backend", "cors"] value
  let default : GatewaySettings := {}
  return { port := ← withDefault fields "port" default.port port?
           backend := ← withDefault fields "backend" default.backend BackendSettings.ofRecord?
           cors := ← withDefault fields "cors" default.cors CorsSettings.ofRecord? }

namespace Settings

/-- Reads settings. -/
def ofRecord? (value : α) : Option Settings := do
  let fields ← Source.fields? ["title", "description", "version", "author", "email", "license",
    "python_version", "generate_agent", "generate_eval", "enable_slim", "with_a2a_proxy",
    "overlay_enhancements", "agentgateway"] value
  let default : Settings := {}
  return { title? := ← optional fields "title" Source.text?
           description? := ← optional fields "description" Source.text?
           version := ← withDefault fields "version" default.version Source.text?
           author := ← withDefault fields "author" default.author Source.text?
           email? := ← optional fields "email" Source.text?
           license := ← withDefault fields "license" default.license Source.text?
           pythonVersion := ← withDefault fields "python_version" default.pythonVersion Source.text?
           generateAgent := ← withDefault fields "generate_agent" default.generateAgent Source.flag?
           generateEval := ← withDefault fields "generate_eval" default.generateEval Source.flag?
           enableSlim := ← withDefault fields "enable_slim" default.enableSlim Source.flag?
           withA2aProxy := ← withDefault fields "with_a2a_proxy" default.withA2aProxy Source.flag?
           overlay := ← withDefault fields "overlay_enhancements" default.overlay
             OverlaySettings.ofRecord?
           gateway? := ← optional fields "agentgateway" GatewaySettings.ofRecord? }

/-- Reads the text of a settings file.  A blank one gives the defaults. -/
def read? (text : String) : Option Settings :=
  if Text.isBlankText text then some {} else (Yaml.document? text).bind ofRecord?

end Settings

/-- The settings of overlay generation as a document. -/
def OverlaySettings.toDocument (settings : OverlaySettings) : Document :=
  .object [("enabled", .bool settings.enabled), ("use_llm", .bool settings.useModel),
    ("max_description_length", .ofNat settings.maxDescriptionLength),
    ("enhance_crud_operations", .bool settings.describeOperations),
    ("add_use_cases", .bool settings.addUseCases),
    ("enhance_parameters", .bool settings.describeParameters),
    ("add_parameter_guidance", .bool settings.addParameterGuidance),
    ("agentic_focus", .bool settings.summarize),
    ("enhance_docstrings", .bool settings.describeTools)]

/-- The settings of a gateway's backend as a document. -/
def BackendSettings.toDocument (settings : BackendSettings) : Document :=
  .object [("host", .text settings.host), ("port", .ofNat settings.port),
    ("path", .text settings.path)]

/-- The age as a document. -/
def MaxAge.toDocument : MaxAge → Document
  | seconds count => .ofNat count
  | duration text => .text text

/-- The settings of requests from other origins as a document. -/
def CorsSettings.toDocument (settings : CorsSettings) : Document :=
  .object [("enabled", .bool settings.enabled),
    ("allow_origins", .ofTexts settings.allowOrigins),
    ("allow_methods", .ofTexts settings.allowMethods),
    ("allow_headers", .ofTexts settings.allowHeaders),
    ("expose_headers", .ofTexts settings.exposeHeaders),
    ("max_age", settings.maxAge.toDocument)]

/-- The settings of a gateway as a document. -/
def GatewaySettings.toDocument (settings : GatewaySettings) : Document :=
  .object [("port", .ofNat settings.port), ("backend", settings.backend.toDocument),
    ("cors", settings.cors.toDocument)]

namespace Settings

/-- The settings as a document. -/
def toDocument (settings : Settings) : Document :=
  .object [("title", .ofText? settings.title?), ("description", .ofText? settings.description?),
    ("version", .text settings.version), ("author", .text settings.author),
    ("email", .ofText? settings.email?), ("license", .text settings.license),
    ("python_version", .text settings.pythonVersion),
    ("generate_agent", .bool settings.generateAgent),
    ("generate_eval", .bool settings.generateEval), ("enable_slim", .bool settings.enableSlim),
    ("with_a2a_proxy", .bool settings.withA2aProxy),
    ("overlay_enhancements", settings.overlay.toDocument),
    ("agentgateway", (settings.gateway?.map GatewaySettings.toDocument).getD .null)]

/-- The text of a settings file. -/
def yaml (settings : Settings) : String := settings.toDocument.yaml

end Settings

end ApiTools
