import ApiTools.Number.Decimal
import ApiTools.Number.Total
import ApiTools.Spec
import ApiTools.Text.Blank
import ApiTools.Text.Case
import ApiTools.Text.Cut

/-!
# Compliance reports

A check gives a score of at most a hundred, and passes or does not.  A report holds the checks of
one description; it passes when all of them do and their average is high enough.
-/

namespace ApiTools.Compliance

/-- The outcome of one check. -/
structure Check where
  /-- Its name, words separated by underscores. -/
  name : String
  passed : Bool
  score : Binary64
  message : String
  details : Members
  errors : List String
  warnings : List String

/-- The name of a check as a heading. -/
def Check.title (check : Check) : String :=
  Text.join " " ((Text.split check.name '_').map Text.capitalize)

/-- What scores are measured by. -/
structure Thresholds where
  /-- The least score of the conversion to the current format. -/
  conversion : Binary64 := .ofNat 95
  /-- The least score of the schemas of parameters. -/
  parameters : Binary64 := .ofNat 100
  /-- The least score of the conversion of body parameters. -/
  bodyParameters : Binary64 := .ofNat 100
  /-- The least score of the structure of the description. -/
  structural : Binary64 := .ofNat 80
  /-- The greatest increase of the processing time over the baseline, in percent. -/
  increase : Binary64 := .ofNat 25
  /-- The number of seconds below which a run without a baseline is fast. -/
  fastSeconds : Binary64 := .ofNat 60
  /-- The least average of a report that passes. -/
  average : Binary64 := .ofNat 85

/-- The checks of one description. -/
structure Report where
  checks : List Check
  /-- The least average with which the report passes. -/
  leastAverage : Binary64

namespace Report

/-- The first check of the given name. -/
def check? (report : Report) (name : String) : Option Check :=
  report.checks.find? (·.name == name)

/-- The average score; zero where there are no checks. -/
def average (report : Report) : Binary64 :=
  if report.checks.isEmpty then .zero false
  else
    (report.checks.map Check.score).foldl Binary64.add (.zero false)
      / Binary64.ofNat report.checks.length

/-- Do all checks pass? -/
def allPassed (report : Report) : Bool := report.checks.all Check.passed

/-- Do all checks pass, with a sufficient average? -/
def passed (report : Report) : Bool :=
  report.allPassed && report.leastAverage.le report.average

/-- The number of errors of all checks. -/
def errorCount (report : Report) : Nat := total (report.checks.map (·.errors.length))

/-- The number of warnings of all checks. -/
def warningCount (report : Report) : Nat := total (report.checks.map (·.warnings.length))

/-- The report with another check in the place of each one of its name. -/
def replace (report : Report) (check : Check) : Report :=
  { report with checks := report.checks.map fun c => if c.name = check.name then check else c }

end Report

end ApiTools.Compliance
