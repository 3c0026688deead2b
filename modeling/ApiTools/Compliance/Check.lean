import ApiTools.Compliance
import ApiTools.Document.Json
import ApiTools.Duration
import ApiTools.Spec.Reference
import ApiTools.Text.Shown

/-!
# The compliance checks

Five checks compare an API description with what became of it: whether it is of the current format,
whether its parameters have schemas, whether no parameter stands for a body any more, whether it has
the parts that a description needs, and how long the work took.  `Report.make` runs them all.
-/

namespace ApiTools.Compliance

/-- Points, errors and warnings that a check collects. -/
structure Findings where
  points : Nat := 0
  errors : List String := []
  warnings : List String := []
  deriving DecidableEq, Repr

namespace Findings

/-- What two parts of a check have found, in order. -/
def append (a b : Findings) : Findings :=
  ⟨a.points + b.points, a.errors ++ b.errors, a.warnings ++ b.warnings⟩

instance : Append Findings := ⟨append⟩

/-- Points alone. -/
def award (points : Nat) : Findings := { points }

/-- One error alone. -/
def error (text : String) : Findings := { errors := [text] }

/-- One warning alone. -/
def warning (text : String) : Findings := { warnings := [text] }

/-- What all parts of a check have found, in order. -/
def all (parts : List Findings) : Findings := parts.foldr append {}

end Findings

/-- How a verdict is written. -/
def verdict (passed : Bool) : String := if passed then "PASS" else "FAIL"

/-- A score as a message gives it. -/
def percentText (score : Binary64) : String := score.fixed 1 ++ "%"

/-- The end of a message, with the verdict. -/
def verdictText (passed : Bool) : String := " (" ++ verdict passed ++ ")"

/-- How many percent of the whole a part is; nothing at all is complete. -/
def share (part whole : Nat) : Binary64 :=
  if whole = 0 then .ofNat 100
  else Binary64.ofNat part / Binary64.ofNat whole * Binary64.ofNat 100

/-! ### Conversion to the current format -/

/-- The fields of format 2.0 that the current format does not have. -/
def legacyFields : List String :=
  ["swagger", "basePath", "host", "schemes", "consumes", "produces"]

/-- Those of the fields that the description has. -/
def remainingFields (spec : Spec) : List String := legacyFields.filter spec.root.has

/-- What the description gives as the version of its format, as text. -/
def declaredVersion? (spec : Spec) : Option String :=
  (spec.root.get? "openapi").map fun version =>
    match version with
    | .text s => s
    | other => other.compact

/-- Is it a version of the current format? -/
def isCurrentVersion (version : String) : Bool := "3.".toList.isPrefixOf version.toList

/-- Does the description name a server? -/
def hasServers (spec : Spec) : Bool := ((spec.root.getItems? "servers").map (!·.isEmpty)).getD false

/-- What is found about the version of a description that was of format 2.0. -/
def versionFindings : Option String → Findings
  | none => .error "Missing 'openapi' field in enhanced spec"
  | some version =>
    if isCurrentVersion version then .award 30
    else .error ("Invalid OpenAPI version: " ++ version)

/-- What is found about a description that was of format 2.0. -/
def convertedFindings (enhanced : Spec) : Findings :=
  let remaining := remainingFields enhanced
  .all [versionFindings (declaredVersion? enhanced),
    if remaining.isEmpty then .award 20
    else .warning ("Swagger 2.0 fields still present: " ++ Text.Shown.encodeList remaining),
    if hasServers enhanced then .award 20
    else .warning "No servers field found (should be converted from host/basePath)"]

/-- What is found about a description that was of the current format already. -/
def keptFindings (enhanced : Spec) : Findings :=
  if (declaredVersion? enhanced).any isCurrentVersion then .award 70
  else .error "OpenAPI version corrupted during enhancement"

/-- Points for a field, or an error where it is missing. -/
def fieldFindings (spec : Spec) (field : String) (points : Nat) : Findings :=
  if spec.root.has field then .award points else .error ("Missing required field: " ++ field)

/-- What is found about the conversion to the current format. -/
def conversionFindings (initial enhanced : Spec) : Findings :=
  .all [if initial.isSwagger2 then convertedFindings enhanced else keptFindings enhanced,
    fieldFindings enhanced "info" 15, fieldFindings enhanced "paths" 15]

/-- Is the description of the current format? -/
def conversionCheck (thresholds : Thresholds) (initial enhanced : Spec) : Check :=
  let findings := conversionFindings initial enhanced
  let score := Binary64.ofNat findings.points
  let passed := findings.errors.isEmpty && thresholds.conversion.le score
  { name := "swagger_conversion"
    passed
    score
    message := "Swagger conversion: " ++ percentText score ++ verdictText passed
    details := [("was_swagger_2_0", .bool initial.isSwagger2),
      ("final_openapi_version", .ofText? (declaredVersion? enhanced)),
      ("remaining_swagger_fields",
        .ofTexts (if initial.isSwagger2 then remainingFields enhanced else []))]
    errors := findings.errors
    warnings := findings.warnings }

/-! ### Schemas of parameters -/

/-- How a parameter says what it holds. -/
inductive SchemaState where
  /-- By a schema with a type or a reference. -/
  | typed
  /-- By a schema without either. -/
  | untyped
  /-- By its content. -/
  | content
  /-- Not at all, which a cookie need not. -/
  | cookie
  /-- By a type of its own, as in format 2.0. -/
  | directType
  /-- Not at all. -/
  | missing
  deriving DecidableEq, Repr

namespace SchemaState

/-- How the parameter says what it holds. -/
def ofParameter (parameter : Document) : SchemaState :=
  match parameter.get? "schema" with
  | some schema => if schema.has "type" || schema.has "$ref" then typed else untyped
  | none =>
    if parameter.has "content" then content
    else if parameter.getText? "in" = some "cookie" then cookie
    else if parameter.has "type" then directType
    else missing

/-- Is it as it should be? -/
def isValid : SchemaState → Bool
  | untyped => false
  | missing => false
  | _ => true

/-- What is found about a parameter, given how messages call it. -/
def findings (state : SchemaState) (name place : String) : Findings :=
  match state with
  | untyped => .error ("Invalid schema for parameter '" ++ name ++ "' in " ++ place)
  | directType =>
    .warning ("Parameter '" ++ name ++ "' in " ++ place
      ++ " uses direct 'type' (Swagger 2.0 style)")
  | missing => .error ("Parameter '" ++ name ++ "' in " ++ place ++ " missing schema/content")
  | _ => {}

end SchemaState

/-- A parameter of an operation. -/
structure ParameterUse where
  operation : Operation
  /-- The parameter, with a reference followed. -/
  parameter : Document

namespace ParameterUse

/-- The parameters of all operations, in order. -/
def all (spec : Spec) : List ParameterUse :=
  spec.operations.flatMap fun op => op.parameters.map fun raw => ⟨op, spec.resolve raw⟩

/-- How the parameter says what it holds. -/
def state (use : ParameterUse) : SchemaState := .ofParameter use.parameter

/-- What is found about the parameter at a position among all, counted from one. -/
def findings (use : ParameterUse) (position : Nat) : Findings :=
  use.state.findings ((use.parameter.getText? "name").getD ("param_" ++ natText position))
    (use.operation.method.upper ++ " " ++ use.operation.path)

/-- What is found about the parameters from a position on. -/
def findingsFrom : (position : Nat) → List ParameterUse → Findings
  | _, [] => {}
  | position, use :: rest => use.findings position ++ findingsFrom (position + 1) rest

end ParameterUse

/-- Do the parameters have schemas? -/
def parametersCheck (thresholds : Thresholds) (enhanced : Spec) : Check :=
  let uses := ParameterUse.all enhanced
  let findings := ParameterUse.findingsFrom 1 uses
  let valid := uses.countP (·.state.isValid)
  let score := share valid uses.length
  let passed := thresholds.parameters.le score
  { name := "parameter_schemas"
    passed
    score
    message := "Parameter schemas: " ++ natText valid ++ "/" ++ natText uses.length ++ " valid ("
      ++ percentText score ++ ")" ++ verdictText passed
    details := [("total_parameters", .ofNat uses.length), ("valid_parameters", .ofNat valid),
      ("invalid_parameters", .ofNat (uses.length - valid))]
    errors := findings.errors
    warnings := findings.warnings }

/-! ### Parameters that stand for a body -/

/-- Does the parameter stand for a body? -/
def isBodyParameter (parameter : Document) : Bool := parameter.getText? "in" = some "body"

/-- Do requests of the method have a body? -/
def hasBody : Method → Bool
  | .post => true
  | .put => true
  | .patch => true
  | _ => false

/-- The number of parameters of an operation that stand for a body. -/
def bodyParameterCount (op : Operation) : Nat := op.parameters.countP isBodyParameter

/-- Is no parameter left that stands for a body? -/
def bodyParametersCheck (thresholds : Thresholds) (initial enhanced : Spec) : Check :=
  let before := total ((initial.operations.filter fun op => hasBody op.method).map
    bodyParameterCount)
  let remaining := total (enhanced.operations.map bodyParameterCount)
  let withBody := enhanced.operations.countP fun op => hasBody op.method && op.requestBody?.isSome
  let score := share (before - remaining) before
  let passed := remaining == 0 && thresholds.bodyParameters.le score
  { name := "body_parameter_conversion"
    passed
    score
    message := "Body parameter conversion: " ++ natText (before - remaining) ++ "/"
      ++ natText before ++ " converted (" ++ percentText score ++ ")" ++ verdictText passed
    details := [("original_body_params", .ofNat before),
      ("remaining_body_params", .ofNat remaining),
      ("converted_body_params", .ofNat (before - remaining)),
      ("operations_with_request_body", .ofNat withBody)]
    errors := enhanced.operations.flatMap fun op =>
      List.replicate (bodyParameterCount op)
        ("Body parameter still present in " ++ op.method.upper ++ " " ++ op.path)
    warnings := [] }

/-! ### Structure -/

/-- The methods at which the structure of paths is sampled. -/
def sampledMethods : List Method := [.get, .post, .put, .patch, .delete]

/-- The number of paths at which the structure is sampled. -/
def sampledPaths : Nat := 5

/-- What stands where operations are expected, at the first paths. -/
def samples (paths : Members) : List Document :=
  (paths.take sampledPaths).flatMap fun (_, item) =>
    sampledMethods.filterMap fun method => item.get? method.name

/-- Are more than four fifths of the samples operations? -/
def samplesPass (samples : List Document) : Bool :=
  4 * samples.length < 5 * samples.countP Document.isObject

/-- What is found about the general information. -/
def infoFindings (spec : Spec) : Findings :=
  match spec.root.get? "info" with
  | none => {}
  | some info =>
    if info.has "title" && info.has "version" then .award 10
    else .warning "Info object missing title or version"

/-- What is found about the paths. -/
def pathsFindings (spec : Spec) : Findings :=
  if spec.root.has "paths" then
    match spec.paths? with
    | some (path :: rest) => .award (if samplesPass (samples (path :: rest)) then 20 else 10)
    | _ => .warning "Paths object is empty or invalid"
  else {}

/-- What is found about the structure. -/
def structureFindings (spec : Spec) : Findings :=
  .all [fieldFindings spec "openapi" 20, fieldFindings spec "info" 20,
    fieldFindings spec "paths" 30, infoFindings spec, pathsFindings spec]

/-- Does the description have the parts that it needs? -/
def structureCheck (thresholds : Thresholds) (enhanced : Spec) : Check :=
  let findings := structureFindings enhanced
  let score := Binary64.ofNat findings.points
  let passed := findings.errors.isEmpty && thresholds.structural.le score
  { name := "openapi_compliance"
    passed
    score
    message := "OpenAPI compliance: " ++ percentText score ++ verdictText passed
    details := [("openapi_version", .ofText? enhanced.formatVersion?),
      ("paths_count", .ofNat ((enhanced.paths?.map List.length).getD 0)),
      ("has_components", .bool (enhanced.root.has "components"))]
    errors := findings.errors
    warnings := findings.warnings }

/-! ### Processing time -/

/-- A score brought into the range from zero to a hundred; one without a value stays. -/
def clampScore (score : Binary64) : Binary64 :=
  if score.lt (.zero false) then .zero false
  else if (Binary64.ofNat 100).lt score then .ofNat 100
  else score

/-- By how many percent the time is above the baseline, where that is not zero. -/
def increase? (seconds : Binary64) (baseline? : Option Duration) : Option Binary64 :=
  (baseline?.map Duration.seconds).bind fun base =>
    if (Binary64.zero false).lt base then
      some ((seconds - base) / base * Binary64.ofNat 100)
    else none

/-- The score of an increase of the time, as measured by a limit. -/
def increaseScore (increase limit : Binary64) : Binary64 :=
  clampScore (Binary64.ofNat 100 - increase / limit * Binary64.ofNat 100)

/-- Did the work take no longer than it may?  Without a baseline it always did. -/
def timeCheck (thresholds : Thresholds) (elapsed : Duration) (baseline? : Option Duration) :
    Check :=
  let seconds := elapsed.seconds
  let increase? := increase? seconds baseline?
  let (passed, score) : Bool × Binary64 := match increase? with
    | some increase => (increase.le thresholds.increase, increaseScore increase thresholds.increase)
    | none => (true, if seconds.lt thresholds.fastSeconds then .ofNat 100 else .ofNat 80)
  { name := "performance"
    passed
    score
    message := "Performance: " ++ seconds.fixed 2 ++ "s" ++ verdictText passed
    details := [("processing_time_seconds", .ofBinary seconds),
      ("baseline_time_seconds", ((baseline?.map fun b => Document.ofBinary b.seconds).getD .null)),
      ("time_increase_percent", ((increase?.map Document.ofBinary).getD .null))]
    errors := match increase? with
      | some increase =>
        if passed then [] else ["Performance increase " ++ percentText increase
          ++ " exceeds limit of " ++ plainNumber.write thresholds.increase ++ "%"]
      | none => []
    warnings := if increase?.isNone then ["No baseline time provided for performance comparison"]
      else [] }

/-- The report on what became of a description in the given time. -/
def Report.make (thresholds : Thresholds) (initial enhanced : Spec) (elapsed : Duration)
    (baseline? : Option Duration) : Report where
  checks := [conversionCheck thresholds initial enhanced, parametersCheck thresholds enhanced,
    bodyParametersCheck thresholds initial enhanced, structureCheck thresholds enhanced,
    timeCheck thresholds elapsed baseline?]
  leastAverage := thresholds.average

end ApiTools.Compliance
