/-!
# Settings

A project's settings say what goes into the metadata of the generated package, how descriptions are
improved, and whether a gateway is configured.  Every setting has a default.
-/

namespace ApiTools

/-- How an overlay with better descriptions is generated. -/
structure OverlaySettings where
  /-- Is an overlay generated at all? -/
  enabled : Bool := true
  /-- Is a language model asked where there is one? -/
  useModel : Bool := true
  /-- The greatest length of a parameter's description that a language model has written. -/
  maxDescriptionLength : Nat := 300
  /-- Do operations get descriptions? -/
  describeOperations : Bool := true
  /-- Do descriptions of operations say when to use them? -/
  addUseCases : Bool := true
  /-- Do parameters get descriptions? -/
  describeParameters : Bool := true
  /-- Do the names of parameters suggest descriptions? -/
  addParameterGuidance : Bool := true
  /-- Do operations with a short summary get a new one? -/
  summarize : Bool := true
  /-- Is a language model asked to describe the tools that lack a description? -/
  describeTools : Bool := false
  deriving DecidableEq, Repr

/-- The API that a gateway stands in front of. -/
structure BackendSettings where
  host : String := "localhost"
  port : Nat := 8000
  path : String := "/"
  deriving DecidableEq, Repr

/-- For how long a browser may keep what it was allowed. -/
inductive MaxAge where
  | seconds (count : Nat)
  | duration (text : String)
  deriving DecidableEq, Repr

/-- Which requests from other origins a gateway allows. -/
structure CorsSettings where
  enabled : Bool := true
  allowOrigins : List String := ["*"]
  allowMethods : List String := ["GET", "POST", "OPTIONS"]
  allowHeaders : List String := ["*"]
  exposeHeaders : List String := ["mcp-protocol-version", "Content-Type", "cache-control"]
  maxAge : MaxAge := .seconds 3600
  deriving DecidableEq, Repr

/-- How a gateway is set up. -/
structure GatewaySettings where
  port : Nat := 3000
  backend : BackendSettings := {}
  cors : CorsSettings := {}
  deriving DecidableEq, Repr

/-- The settings of a project. -/
structure Settings where
  /-- The title; that of the API description where none is given. -/
  title? : Option String := none
  description? : Option String := none
  /-- The version of the generated package. -/
  version : String := "0.1.0"
  author : String := "mcpcodegen"
  email? : Option String := none
  license : String := "Apache-2.0"
  pythonVersion : String := "3.13"
  /-- Is an agent generated beside the server? -/
  generateAgent : Bool := false
  /-- Is an evaluation asked for? -/
  generateEval : Bool := false
  enableSlim : Bool := false
  withA2aProxy : Bool := false
  overlay : OverlaySettings := {}
  /-- The gateway, where one is wanted. -/
  gateway? : Option GatewaySettings := none
  deriving DecidableEq, Repr

end ApiTools
