import ApiTools.Compliance.Check
import ApiTools.Document.Json
import ApiTools.Metrics
import ApiTools.Number.Grouped

/-!
# The text of a compliance report

A report is written for people: the checks with what they found, the result, and what was counted
where that is known.
-/

namespace ApiTools.Compliance

/-- The line that separates the parts of a report. -/
def rule : String := String.ofList (List.replicate 80 '=')

/-- The lines of a text, each with its end. -/
def textOfLines (lines : List String) : String := String.join (lines.map (· ++ "\n"))

/-- The number of bytes from which on a list or an object is only counted. -/
def detailBound : Nat := 100

/-- A detail of a check: a text without quotes, and a list or an object only counted where it is
long. -/
def detailText : Document → String
  | .text s => s
  | .null => "None"
  | .list items =>
    let text := (Document.list items).compact
    if detailBound < text.utf8ByteSize then "list(" ++ natText items.length ++ " items)" else text
  | .object members =>
    let text := (Document.object members).compact
    if detailBound < text.utf8ByteSize then "dict(" ++ natText members.length ++ " items)"
    else text
  | other => other.compact

/-- The lines for a check. -/
def Check.lines (check : Check) : List String :=
  let mark := if check.passed then "[PASS] " else "[FAIL] "
  [mark ++ check.title ++ ": " ++ check.message]
    ++ check.errors.map ("   ERROR: " ++ ·)
    ++ check.warnings.map ("   WARNING: " ++ ·)
    ++ (if check.passed || check.details.isEmpty then []
        else "   Details:" :: check.details.map fun (key, value) =>
          "      " ++ key ++ ": " ++ detailText value)
    ++ [""]

/-- A change of size with its sign. -/
def changeText (change : Binary64) : String :=
  let text := change.fixed 1
  if text.toList.head? = some '-' then text ++ "%" else "+" ++ text ++ "%"

/-- What became of the size of a description. -/
def sizeText (metrics : Metrics) : String :=
  let initial := groupedText metrics.initialSize
  let enhanced := groupedText metrics.enhancedSize
  match metrics.sizeChange? with
  | some change => initial ++ " -> " ++ enhanced ++ " bytes (" ++ changeText change ++ ")"
  | none =>
    if 0 < metrics.enhancedSize then initial ++ " -> " ++ enhanced ++ " bytes"
    else initial ++ " bytes"

/-- The lines for the tokens of a phase. -/
def phaseLines (phase : String) (totals : TokenTotals) : List String :=
  ["   " ++ phase ++ " Phase:",
    "     Input tokens:  " ++ groupedText totals.input,
    "     Output tokens: " ++ groupedText totals.output,
    "     Total:         " ++ groupedText totals.total]

/-- The lines for the use of a language model. -/
def usageLines (metrics : Metrics) : List String :=
  if 0 < metrics.totalTokens then
    ["", "LLM Token Usage:"] ++ phaseLines "Generation" metrics.generation
      ++ phaseLines "Validation" metrics.validation
      ++ ["   Overall Total:   " ++ groupedText metrics.totalTokens ++ " tokens"]
  else if 0 < metrics.calls then
    ["", "LLM Usage:", "   LLM calls made: " ++ natText metrics.calls,
      "   Token tracking: not available"]
  else []

/-- The lines for what was counted; none before the time is known. -/
def metricsLines (metrics : Metrics) : List String :=
  match metrics.processingTime? with
  | none => []
  | some elapsed =>
    ["", "Enhancement Metrics:",
      "   Processing Time: " ++ elapsed.seconds.fixed 2 ++ "s",
      "   Operations Processed: " ++ natText metrics.operations,
      "   Parameters Fixed: " ++ natText metrics.parametersFixed,
      "   Body Parameters Converted: " ++ natText metrics.bodyParametersConverted,
      "   Overlay Actions Applied: " ++ natText metrics.actionsApplied,
      "   File Size: " ++ sizeText metrics] ++ usageLines metrics

namespace Report

/-- The lines for the result. -/
def resultLines (report : Report) (violationsOnly : Bool) : List String :=
  if violationsOnly && report.allPassed then
    ["NO VIOLATIONS FOUND", "   All compliance requirements are met.", rule]
  else
    [rule,
      "OVERALL RESULT: " ++ (if report.passed then "PASSED" else "FAILED") ++ " ("
        ++ percentText report.average ++ " average)",
      "VIOLATIONS SUMMARY: " ++ natText report.errorCount ++ " errors, "
        ++ natText report.warningCount ++ " warnings",
      rule]

/-- The checks that a report shows. -/
def shownChecks (report : Report) (violationsOnly : Bool) : List Check :=
  report.checks.filter fun check => !(violationsOnly && check.passed)

/-- The lines of a report. -/
def lines (report : Report) (metrics? : Option Metrics) (violationsOnly : Bool) : List String :=
  [rule, "VALIDATION REPORT", rule, ""]
    ++ (report.shownChecks violationsOnly).flatMap Check.lines
    ++ report.resultLines violationsOnly
    ++ (metrics?.map metricsLines).getD []

/-- The text of a report. -/
def text (report : Report) (metrics? : Option Metrics) (violationsOnly : Bool) : String :=
  textOfLines (report.lines metrics? violationsOnly)

end Report

end ApiTools.Compliance
