import ApiTools.Audit.Project
import ApiTools.Command

/-!
# Carrying out commands

A command prints something and ends with a code: zero if all is well, one if a check or a file
failed or the command could not be carried out, and two if there is no command in the words.
-/

namespace ApiTools

/-- What commands are carried out with. -/
structure CommandEnvironment (m : Type → Type) where
  /-- The formatter for the files of projects. -/
  formatter : Formatter m
  /-- The language model, where there is one. -/
  model? : Option LanguageModel
  /-- The time that has passed since some moment. -/
  clock : m Duration

/-- How a command ended. -/
structure CommandResult where
  code : Nat
  /-- What it printed. -/
  output : String
  deriving DecidableEq, Repr

namespace CommandResult

/-- The code of a command that was carried out. -/
def codeOf (passed : Bool) : Nat := if passed then 0 else 1

/-- How a command ends that could not be carried out. -/
def failed : CommandResult := ⟨1, ""⟩

/-- How a command ends whose baseline is no duration. -/
def impossible : CommandResult := ⟨101, ""⟩

/-- How words end that are no command. -/
def ofRefusal : CommandRefusal → CommandResult
  | .helpWanted => ⟨0, ""⟩
  | .misused => ⟨2, ""⟩

/-- How a command ends that printed lines. -/
def ofLines (passed : Bool) (lines : List String) : CommandResult :=
  ⟨codeOf passed, Compliance.textOfLines lines⟩

end CommandResult

/-- The formatter that is not installed. -/
def Formatter.missing {m : Type → Type} [Monad m] (program : String) : Formatter m :=
  ⟨fun _ => return .error (.notInstalled program)⟩

/-- A baseline in seconds as a duration; the inner answer is missing where it is none. -/
def baselineOf? : Option Binary64 → Option (Option Duration)
  | none => some none
  | some seconds => (Duration.ofSeconds? seconds).map some

namespace Command

variable {m : Type → Type} [Monad m] [FileStore m] (environment : CommandEnvironment m)

/-- What is needed to work on a description. -/
def enhancer (source : CommandSource) (dryRun : Bool) : ExceptT Failure m (Enhancer m) := do
  let settings ← Settings.discover source.settings? source.spec
  let useModel := settings.overlay.useModel && !source.withoutModel
  let settings := { settings with overlay := { settings.overlay with useModel } }
  let assistant? ← match environment.model? with
    | some model =>
      if useModel then pure (some ⟨model, ← (Prompts.locate source.prompts? : m _)⟩)
      else pure none
    | none => pure none
  return { settings, assistant?, writer := ⟨some environment.formatter, dryRun⟩, thresholds := {}
           clock := environment.clock }

/-- The line that says how to go on after a description was enhanced. -/
def nextLines (directory : String) (options : EnhancementOptions) (result : Enhancement) :
    List String :=
  match options.overlayOnly, result.specPath? with
  | true, some path =>
    ["Generate the project with: mcpcodegen generate " ++ path ++ " " ++ directory]
  | _, _ => []

/-- Carries out the command that enhances a description. -/
def runEnhance (source : CommandSource) (directory : String) (options : EnhancementOptions)
    (dryRun : Bool) (baseline? : Option Binary64) (violationsOnly : Bool) :
    ExceptT Failure m CommandResult := do
  let enhancer ← enhancer environment source dryRun
  match baselineOf? baseline? with
  | none => return .impossible
  | some baseline? =>
    let result ← enhancer.enhance source.spec directory { options with baseline? }
    return .ofLines result.passed
      ([result.summary, "", result.report.text (some result.metrics) violationsOnly]
        ++ nextLines directory options result)

/-- Carries out the command that generates an overlay. -/
def runGenerateOverlay (source : CommandSource) (output : String) (format : OutputFormat) :
    ExceptT Failure m CommandResult := do
  let enhancer ← enhancer environment source false
  let generated ← enhancer.generateOverlay source.spec output format
  return .ofLines true
    ["Generated overlay with " ++ natText generated.stats.actions ++ " actions for "
      ++ natText generated.stats.operations ++ " operations: " ++ output]

/-- Carries out the command that applies an overlay. -/
def runApplyOverlay (spec overlay output : String) (format : OutputFormat) :
    ExceptT Failure m CommandResult := do
  let stats ← ApiTools.applyOverlay spec overlay output format
  return .ofLines true
    ["Applied " ++ natText stats.applied ++ " actions (" ++ natText stats.created ++ " created, "
      ++ natText stats.skipped ++ " skipped): " ++ output]

/-- Carries out the command that checks a description. -/
def runValidate (initial enhanced : String) (violationsOnly : Bool)
    (baseline? : Option Binary64) : ExceptT Failure m CommandResult := do
  match baselineOf? baseline? with
  | none => return .impossible
  | some baseline? =>
    let (report, metrics) ←
      ApiTools.validate environment.clock initial enhanced {} baseline?
    return .ofLines report.passed [report.text (some metrics) violationsOnly]

/-- Carries out the command that generates a project. -/
def runGenerate (source : CommandSource) (directory : String) (dryRun : Bool) :
    ExceptT Failure m CommandResult := do
  let enhancer ← enhancer environment source dryRun
  let (report, _) ← enhancer.generate source.spec directory
  return .ofLines report.failed.isEmpty
    (("Generated " ++ report.packageDirectory ++ " (" ++ natText report.files.length ++ " files, "
        ++ natText report.toolCount ++ " tools)")
      :: report.failed.map fun (path, reason) => "Failed: " ++ path ++ " (" ++ reason ++ ")")

/-- Carries out the command that audits projects. -/
def runValidateFunctions (directories : List String) (target? : Option Nat) :
    ExceptT Failure m CommandResult := do
  let limits : NameLimits := {}
  let report ← Audit.auditAll { limits with target := target?.getD limits.target } directories
  return .ofLines report.passed [report.text]

/-- Carries out a command. -/
def run : Command → ExceptT Failure m CommandResult
  | .enhance source directory options dryRun baseline? violationsOnly =>
    runEnhance environment source directory options dryRun baseline? violationsOnly
  | .generateOverlay source output format => runGenerateOverlay environment source output format
  | .applyOverlay spec overlay output format => runApplyOverlay spec overlay output format
  | .validate initial enhanced violationsOnly baseline? =>
    runValidate environment initial enhanced violationsOnly baseline?
  | .generate source directory dryRun => runGenerate environment source directory dryRun
  | .validateFunctions directories target? => runValidateFunctions directories target?

/-- Reads a command from words and carries it out. -/
def runWords (words : List String) : m CommandResult :=
  match read false words with
  | .error refusal => return .ofRefusal refusal
  | .ok command => do
    match ← (run environment command).run with
    | .ok result => return result
    | .error _ => return .failed

end Command

end ApiTools
