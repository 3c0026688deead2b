import ApiTools.Settings.Text

/-!
# Gateway configuration

A gateway reads an API description and offers its operations as tools.  `GatewaySettings.config` is
the file that sets one up for a description stored beside it.
-/

namespace ApiTools

/-- The age as the gateway reads it, with a unit. -/
def MaxAge.asDuration : MaxAge → String
  | seconds count => natText count ++ "s"
  | duration text => text

/-- The policies of the route: what is allowed from other origins, or nothing. -/
def CorsSettings.policies (cors : CorsSettings) : Document :=
  if cors.enabled then
    .object [("cors", .object [("allowOrigins", .ofTexts cors.allowOrigins),
      ("allowMethods", .ofTexts cors.allowMethods), ("allowHeaders", .ofTexts cors.allowHeaders),
      ("exposeHeaders", .ofTexts cors.exposeHeaders),
      ("maxAge", .text cors.maxAge.asDuration)])]
  else .object []

/-- The one target behind the route. -/
def BackendSettings.target (backend : BackendSettings) (specFile : String) : Document :=
  .object [("name", .text "openapi"),
    ("openapi", .object [("schema", .object [("file", .text specFile)]),
      ("host", .text backend.host), ("port", .ofNat backend.port), ("path", .text backend.path)])]

namespace GatewaySettings

/-- The name of the file that sets up a gateway. -/
def fileName : String := "agw.yaml"

/-- The configuration of a gateway for the description in the given file. -/
def configDocument (settings : GatewaySettings) (specFile : String) : Document :=
  let targets := Document.list [settings.backend.target specFile]
  let backend := Document.object [("mcp", .object [("targets", targets)])]
  let route := Document.object
    [("policies", settings.cors.policies), ("backends", .list [backend])]
  let listener := Document.object [("routes", .list [route])]
  let bind := Document.object [("port", .ofNat settings.port), ("listeners", .list [listener])]
  .object [("binds", .list [bind])]

/-- The text of the configuration. -/
def config (settings : GatewaySettings) (specFile : String) : String :=
  (settings.configDocument specFile).yaml

end GatewaySettings

end ApiTools
