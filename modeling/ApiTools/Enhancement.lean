import ApiTools.Compliance.Text
import ApiTools.Files.Documents

/-!
# Enhancing an API description

To enhance a description, an overlay with better texts is generated and applied, the result is
normalized, a project is generated from it, and the whole is checked.  Each of these steps can also
be taken alone, from a file to a file.
-/

namespace ApiTools

/-- What is needed to enhance descriptions. -/
structure Enhancer (m : Type → Type) where
  settings : Settings
  /-- The language model that is asked, where there is one. -/
  assistant? : Option Assistant
  /-- How projects are written. -/
  writer : Writer m
  thresholds : Compliance.Thresholds
  /-- The time that has passed since some moment. -/
  clock : m Duration

/-- What is asked for when a description is enhanced. -/
structure EnhancementOptions where
  /-- Where the overlay is kept, if anywhere. -/
  overlayPath? : Option String := none
  /-- Where the enhanced description is kept, if that is said. -/
  specPath? : Option String := none
  /-- Is no overlay generated? -/
  skipOverlay : Bool := false
  /-- Is no project generated? -/
  overlayOnly : Bool := false
  /-- The format of the overlay that is kept. -/
  format : OutputFormat := .yaml
  /-- How long it may be expected to take. -/
  baseline? : Option Duration := none

/-- A description that was enhanced. -/
structure Enhancement where
  report : Compliance.Report
  metrics : Metrics
  normalization : NormalizationStats
  /-- The project, where one was generated. -/
  project? : Option EmitReport
  overlayPath? : Option String
  specPath? : Option String
  gatewayPath? : Option String
  /-- What the language model was asked, in order. -/
  questions : List Question

namespace Enhancement

/-- Do the checks pass, and was every file of the project accepted? -/
def passed (result : Enhancement) : Bool :=
  result.report.passed && (result.project?.map fun p => p.failed.isEmpty).getD true

/-- The lines about a project. -/
def projectLines (project : EmitReport) : List String :=
  ("Project: " ++ project.packageDirectory ++ " (" ++ natText project.files.length ++ " files, "
      ++ natText project.toolCount ++ " tools)")
    :: project.failed.map fun (path, reason) => "Failed: " ++ path ++ " (" ++ reason ++ ")"

/-- What was made, in a few lines. -/
def summary (result : Enhancement) : String :=
  Text.join "\n" (
    (result.overlayPath?.map ("Overlay: " ++ ·)).toList
      ++ (result.specPath?.map ("Enhanced spec: " ++ ·)).toList
      ++ (result.gatewayPath?.map ("Agentgateway config: " ++ ·)).toList
      ++ (if result.normalization.convertedSwagger then
            ["Converted Swagger 2.0 document to OpenAPI 3.0"]
          else [])
      ++ (result.project?.map projectLines).getD [])

end Enhancement

/-- The size of a description in bytes, as it is written. -/
def Spec.byteSize (spec : Spec) : Nat := spec.root.pretty.utf8ByteSize

namespace Enhancer

variable {m : Type → Type} [Monad m] [FileStore m] (enhancer : Enhancer m)

/-- The overlay for a description. -/
def overlayFor (spec : Spec) : GeneratedOverlay :=
  Overlay.generate enhancer.settings.overlay enhancer.assistant? spec

/-- Generates an overlay for the description in a file and writes it. -/
def generateOverlay (specPath output : String) (format : OutputFormat) :
    ExceptT Failure m GeneratedOverlay := do
  let generated := enhancer.overlayFor (← Spec.load specPath)
  generated.overlay.save output format
  return generated

/-- Generates a project for a description, after a number of questions.  What the language model
was asked comes with the report. -/
def emit (spec : Spec) (asked : Nat) (directory : String) :
    ExceptT Failure m (EmitReport × List Question) := do
  match ProjectPlan.make spec enhancer.settings enhancer.assistant? asked directory with
  | none => throw .endlessBody
  | some plan => return (← enhancer.writer.emit plan, plan.texts.questions)

/-- Generates a project for the description in a file, which is normalized first. -/
def generate (specPath directory : String) : ExceptT Failure m (EmitReport × List Question) := do
  let spec ← Spec.load specPath
  enhancer.emit ⟨(normalize spec.root).1⟩ 0 directory

/-- Writes the overlay where it is to be kept, and tells where that is.  Nothing is written in a dry
run. -/
def keepOverlay (options : EnhancementOptions) (overlay : Overlay) :
    ExceptT Failure m (Option String) :=
  match options.overlayPath? with
  | none => return none
  | some path =>
    if enhancer.writer.dryRun then return none
    else do
      overlay.save path options.format
      return some path

/-- The name of an enhanced description that has to be kept, where no path is given for it. -/
def keptSpecName : String := "enhanced_openapi.json"

/-- Where the enhanced description is kept.  It has to be when no project is generated, and when a
gateway is set up, which refers to it. -/
def keptSpecPath? (options : EnhancementOptions) (directory : String) : Option String :=
  match options.specPath? with
  | some path => some path
  | none =>
    if options.overlayOnly || enhancer.settings.gateway?.isSome then
      some (Path.join directory keptSpecName)
    else none

/-- Writes the enhanced description where it is to be kept, and tells where that is.  Nothing is
written in a dry run. -/
def keepSpec (options : EnhancementOptions) (directory : String) (spec : Spec) :
    ExceptT Failure m (Option String) :=
  match enhancer.keptSpecPath? options directory with
  | none => return none
  | some path =>
    if enhancer.writer.dryRun then return none
    else do
      spec.save path .json
      return some path

/-- Sets up a gateway for a description that was kept, where one is wanted, and tells where. -/
def keepGateway (specPath? : Option String) : ExceptT Failure m (Option String) := do
  match enhancer.settings.gateway?, specPath? with
  | some gateway, some path => return some (← gateway.save path)
  | _, _ => return none

/-- The generated overlay with what came of applying it. -/
structure Overlaid where
  spec : Spec
  generated : GeneratedOverlay
  applied : ApplyStats

/-- The description with the overlay applied that is generated for it. -/
def overlaid (spec : Spec) : Overlaid :=
  let generated := enhancer.overlayFor spec
  let (root, applied) := generated.overlay.apply spec.root
  ⟨⟨root⟩, generated, applied⟩

/-- What is counted of a run. -/
def count (initial enhanced : Spec) (overlaid? : Option Overlaid)
    (normalization : NormalizationStats) (project? : Option EmitReport) (elapsed : Duration) :
    Metrics :=
  let metrics : Metrics := { initialSize := initial.byteSize, enhancedSize := enhanced.byteSize }
  let metrics := metrics.start
  let metrics := match overlaid? with
    | some overlaid => (metrics.noteGenerated overlaid.generated.stats).noteApplied overlaid.applied
    | none => metrics
  let metrics := (metrics.noteNormalized normalization).noteOperations enhanced.operations.length
  let metrics := match project? with
    | some project => metrics.noteEmitted project
    | none => metrics
  metrics.finish elapsed

/-- Enhances the description in a file; the project goes to a directory. -/
def enhance (specPath directory : String) (options : EnhancementOptions) :
    ExceptT Failure m Enhancement := do
  let started ← (enhancer.clock : m _)
  let initial ← Spec.load specPath
  let overlaid? := if options.skipOverlay then none else some (enhancer.overlaid initial)
  let overlayPath? ← match overlaid? with
    | some overlaid => enhancer.keepOverlay options overlaid.generated.overlay
    | none => pure none
  let overlaidSpec := (overlaid?.map Overlaid.spec).getD initial
  let (root, normalization) := normalize overlaidSpec.root
  let enhanced : Spec := ⟨root⟩
  let specPath? ← enhancer.keepSpec options directory enhanced
  let asked := (overlaid?.map (·.generated.questions)).getD []
  let project? ←
    if options.overlayOnly then pure none
    else some <$> enhancer.emit enhanced asked.length directory
  let gatewayPath? ← enhancer.keepGateway specPath?
  let ended ← (enhancer.clock : m _)
  let elapsed : Duration := ⟨ended.nanoseconds - started.nanoseconds⟩
  return {
    report := .make enhancer.thresholds initial enhanced elapsed options.baseline?
    metrics := count initial enhanced overlaid? normalization (project?.map Prod.fst) elapsed
    normalization
    project? := project?.map Prod.fst
    overlayPath?
    specPath?
    gatewayPath?
    questions := asked ++ (project?.map Prod.snd).getD [] }

end Enhancer

variable {m : Type → Type} [Monad m] [FileStore m]

/-- Applies the overlay in a file to the description in a file and writes the result. -/
def applyOverlay (specPath overlayPath output : String) (format : OutputFormat) :
    ExceptT Failure m ApplyStats := do
  let spec ← Spec.load specPath
  let overlay ← Overlay.load overlayPath
  let (root, stats) := overlay.apply spec.root
  Spec.save ⟨root⟩ output format
  return stats

/-- Checks the enhanced description in a file against the initial one. -/
def validate (clock : m Duration) (initialPath enhancedPath : String)
    (thresholds : Compliance.Thresholds) (baseline? : Option Duration) :
    ExceptT Failure m (Compliance.Report × Metrics) := do
  let started ← (clock : m _)
  let initial ← Spec.load initialPath
  let enhanced ← Spec.load enhancedPath
  let ended ← (clock : m _)
  let elapsed : Duration := ⟨ended.nanoseconds - started.nanoseconds⟩
  let metrics : Metrics :=
    { initialSize := initial.byteSize
      enhancedSize := enhanced.byteSize
      operations := enhanced.operations.length
      processingTime? := some elapsed }
  return (.make thresholds initial enhanced elapsed baseline?, metrics)

end ApiTools
