import ApiTools.Duration
import ApiTools.Normalize
import ApiTools.Overlay.Generate
import ApiTools.Project.Emit

/-!
# Metrics

What is counted while an API description is improved: how large it was and became, what was changed
in it, how often a language model was asked, and how long everything took.
-/

namespace ApiTools

/-- Tokens that a language model has read and written. -/
structure TokenTotals where
  input : Nat := 0
  output : Nat := 0
  deriving DecidableEq, Repr

namespace TokenTotals

/-- All tokens together. -/
def total (totals : TokenTotals) : Nat := totals.input + totals.output

/-- The totals with more tokens. -/
def add (totals : TokenTotals) (input output : Nat) : TokenTotals :=
  ⟨totals.input + input, totals.output + output⟩

end TokenTotals

/-- What was counted. -/
structure Metrics where
  /-- Is the clock running? -/
  isRunning : Bool := false
  /-- How long it took, once that is known. -/
  processingTime? : Option Duration := none
  /-- The size of the description as it was, in bytes. -/
  initialSize : Nat := 0
  /-- The size of the description as it became, in bytes. -/
  enhancedSize : Nat := 0
  operations : Nat := 0
  parametersFixed : Nat := 0
  bodyParametersConverted : Nat := 0
  /-- The number of actions of overlays that were carried out. -/
  actionsApplied : Nat := 0
  /-- The number of calls of a language model. -/
  calls : Nat := 0
  /-- The tokens used to write texts. -/
  generation : TokenTotals := {}
  /-- The tokens used to judge texts. -/
  validation : TokenTotals := {}
  deriving DecidableEq, Repr

namespace Metrics

/-- Starts the clock. -/
def start (metrics : Metrics) : Metrics :=
  { metrics with isRunning := true, processingTime? := none }

/-- Stops the clock after the given time, if it is running. -/
def finish (metrics : Metrics) (elapsed : Duration) : Metrics :=
  if metrics.isRunning then { metrics with isRunning := false, processingTime? := some elapsed }
  else metrics

/-- Stops the clock and sets the time. -/
def setTime (metrics : Metrics) (elapsed : Duration) : Metrics :=
  { metrics with isRunning := false, processingTime? := some elapsed }

/-- Adds tokens used to write texts. -/
def addGeneration (metrics : Metrics) (input output : Nat) : Metrics :=
  { metrics with generation := metrics.generation.add input output }

/-- Adds tokens used to judge texts. -/
def addValidation (metrics : Metrics) (input output : Nat) : Metrics :=
  { metrics with validation := metrics.validation.add input output }

/-- Takes note of at least so many operations. -/
def noteOperations (metrics : Metrics) (count : Nat) : Metrics :=
  { metrics with operations := max metrics.operations count }

/-- Takes note of a generated overlay. -/
def noteGenerated (metrics : Metrics) (stats : GenerationStats) : Metrics :=
  let metrics := metrics.noteOperations stats.operations
  { metrics with calls := metrics.calls + stats.calls }.addGeneration
    stats.inputTokens stats.outputTokens

/-- Takes note of an overlay that was applied. -/
def noteApplied (metrics : Metrics) (stats : ApplyStats) : Metrics :=
  { metrics with actionsApplied := metrics.actionsApplied + stats.applied }

/-- Takes note of a description that was normalized. -/
def noteNormalized (metrics : Metrics) (stats : NormalizationStats) : Metrics :=
  { metrics with
    parametersFixed := metrics.parametersFixed + stats.parametersFixed
    bodyParametersConverted := metrics.bodyParametersConverted + stats.bodyParametersConverted }

/-- Takes note of a project that was written. -/
def noteEmitted (metrics : Metrics) (report : EmitReport) : Metrics :=
  { metrics with calls := metrics.calls + report.calls }.addGeneration
    report.inputTokens report.outputTokens

/-- All tokens together. -/
def totalTokens (metrics : Metrics) : Nat := metrics.generation.total + metrics.validation.total

/-- By how many percent of its size the description grew, where both sizes are known. -/
def sizeChange? (metrics : Metrics) : Option Binary64 :=
  if metrics.initialSize = 0 || metrics.enhancedSize = 0 then none
  else
    let initial := Binary64.ofNat metrics.initialSize
    some ((Binary64.ofNat metrics.enhancedSize - initial) / initial * Binary64.ofNat 100)

end Metrics

end ApiTools
