import ApiTools.Audit
import ApiTools.Compliance.Text

/-!
# The report of an audit

The report counts what was found in all projects and lists it project by project.
-/

namespace ApiTools

/-- What was found in several projects. -/
structure AuditReport where
  projects : List ProjectAudit

namespace ProjectAudit

/-- The lines of a part of a report, under its heading. -/
def section? {α : Type} (heading : String) (line : α → String) (found : List α) : List String :=
  if found.isEmpty then [] else ("   " ++ heading ++ ":") :: found.map fun a => "      " ++ line a

/-- The lines for a project. -/
def lines (audit : ProjectAudit) : List String :=
  [(if audit.passed then "[PASS] " else "[FAIL] ") ++ audit.project ++ ":",
      "   Functions: " ++ natText audit.functions.length,
      "   Errors: " ++ natText audit.errors.length,
      "   Warnings: " ++ natText audit.warnings.length]
    ++ audit.errors.map ("   ERROR: " ++ ·)
    ++ audit.warnings.map ("   WARNING: " ++ ·)
    ++ section? "Duplicate Functions"
      (fun (name, files) => "'" ++ name ++ "' in " ++ natText files.length ++ " files")
      audit.duplicates
    ++ section? "Length Violations"
      (fun f : ToolFunction => "'" ++ f.name ++ "' (" ++ natText f.length ++ " chars)")
      audit.tooLong
    ++ section? "Unregistered Functions"
      (fun f : ToolFunction => "'" ++ f.name ++ "' in " ++ f.module ++ ":" ++ natText f.line)
      audit.unregistered
    ++ [""]

end ProjectAudit

namespace AuditReport

/-- Do all projects pass? -/
def passed (report : AuditReport) : Bool := report.projects.all ProjectAudit.passed

/-- The number of functions in all projects. -/
def functionCount (report : AuditReport) : Nat :=
  total (report.projects.map (·.functions.length))

/-- The lines about the average, where there is one. -/
def averageLines (report : AuditReport) : List String :=
  if report.projects.isEmpty then []
  else
    let average := Binary64.ofNat report.functionCount / Binary64.ofNat report.projects.length
    ["Average Functions per Project: " ++ average.fixed 1]

/-- The lines of the report. -/
def lines (report : AuditReport) : List String :=
  let status := if report.passed then "PASSED" else "FAILED"
  let rule := Compliance.rule
  [rule, "MCP FUNCTION VALIDATION REPORT", rule, "",
      "OVERALL RESULT: " ++ status,
      "Projects Validated: " ++ natText report.projects.length ++ " ("
        ++ natText (report.projects.countP ProjectAudit.passed) ++ " passed)",
      "Total Functions: " ++ natText report.functionCount,
      "Total Errors: " ++ natText (total (report.projects.map (·.errors.length))),
      "Total Warnings: " ++ natText (total (report.projects.map (·.warnings.length))), ""]
    ++ report.projects.flatMap ProjectAudit.lines
    ++ report.averageLines
    ++ [rule, "VALIDATION COMPLETE: " ++ status, rule]

/-- The text of the report. -/
def text (report : AuditReport) : String := Compliance.textOfLines report.lines

end AuditReport

end ApiTools
