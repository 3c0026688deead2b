import ApiTools.Compliance.Text
import Mathlib.Data.List.Infix

/-!
# The verdict of a printed report

A report is printed with one line that says whether all is well (`Report.filter_lines_isVerdict`).
This line and `Report.passed` come from two computations.  They agree, except where only violations
are shown, every check passes and the average is too low: then no violation is announced of a report
that does not pass (`Report.announcesSuccess_iff`).
-/

namespace ApiTools.Compliance

/-- Does the text begin in this way? -/
def beginsWith (lead text : String) : Bool := lead.toList.isPrefixOf text.toList

/-- Is it a line that says whether all is well? -/
def isVerdict (line : String) : Bool :=
  beginsWith "OVERALL RESULT: " line || beginsWith "NO VIOLATIONS FOUND" line

/-- Is it a line that says that all is well? -/
def announcesSuccess (line : String) : Bool :=
  beginsWith "OVERALL RESULT: PASSED" line || beginsWith "NO VIOLATIONS FOUND" line

/-- How a text begins is seen in a part of it that is long enough. -/
theorem beginsWith_append {lead text : String} (h : lead.toList.length ≤ text.toList.length)
    (rest : String) : beginsWith lead (text ++ rest) = beginsWith lead text := by
  unfold beginsWith
  rw [Bool.eq_iff_iff, List.isPrefixOf_iff_prefix, List.isPrefixOf_iff_prefix,
    String.toList_append]
  constructor
  · intro hlead
    exact List.prefix_of_prefix_length_le hlead (List.prefix_append _ _) h
  · intro hlead
    exact hlead.trans (List.prefix_append _ _)

/-! ### Lines that are no verdicts -/

/-- Does the text begin with a character, and is this none with which a verdict begins? -/
def beginsApart (lead : String) : Bool := lead.toList.head?.any fun c => c != 'O' && c != 'N'

theorem isVerdict_append {lead : String} (h : beginsApart lead = true) (rest : String) :
    isVerdict (lead ++ rest) = false := by
  unfold beginsApart at h
  unfold isVerdict beginsWith
  rw [String.toList_append]
  cases hlead : lead.toList with
  | nil => simp [hlead] at h
  | cons c cs =>
    have hc : c ≠ 'O' ∧ c ≠ 'N' := by simpa [hlead] using h
    have hresult : "OVERALL RESULT: ".toList = 'O' :: "VERALL RESULT: ".toList := by decide
    have hnone : "NO VIOLATIONS FOUND".toList = 'N' :: "O VIOLATIONS FOUND".toList := by decide
    rw [hresult, hnone, List.cons_append, List.isPrefixOf_cons_cons, List.isPrefixOf_cons_cons]
    simp [Ne.symm hc.1, Ne.symm hc.2]

theorem isVerdict_checkLines (check : Check) : ∀ line ∈ check.lines, isVerdict line = false := by
  have hmark : isVerdict ((if check.passed then "[PASS] " else "[FAIL] ") ++ check.title ++ ": "
      ++ check.message) = false := by
    rw [String.append_assoc, String.append_assoc]
    split
    · exact isVerdict_append (by decide) _
    · exact isVerdict_append (by decide) _
  have hdetails : ∀ line ∈ (if check.passed || check.details.isEmpty then []
      else "   Details:" :: check.details.map fun entry =>
        "      " ++ entry.1 ++ ": " ++ detailText entry.2), isVerdict line = false := by
    split
    · simp
    · rw [List.forall_mem_cons, List.forall_mem_map]
      refine ⟨by decide, fun entry _ => ?_⟩
      rw [String.append_assoc, String.append_assoc]
      exact isVerdict_append (by decide) _
  unfold Check.lines
  simp only [List.forall_mem_append, List.forall_mem_map, List.forall_mem_singleton]
  exact ⟨⟨⟨⟨hmark, fun _ _ => isVerdict_append (by decide) _⟩,
    fun _ _ => isVerdict_append (by decide) _⟩, hdetails⟩, by decide⟩

theorem isVerdict_phaseLines (phase : String) (totals : TokenTotals) :
    ∀ line ∈ phaseLines phase totals, isVerdict line = false := by
  unfold phaseLines
  simp only [List.forall_mem_cons, List.not_mem_nil, false_implies, implies_true, and_true]
  refine ⟨?_, isVerdict_append (by decide) _, isVerdict_append (by decide) _,
    isVerdict_append (by decide) _⟩
  rw [String.append_assoc]
  exact isVerdict_append (by decide) _

theorem isVerdict_usageLines (metrics : Metrics) :
    ∀ line ∈ usageLines metrics, isVerdict line = false := by
  unfold usageLines
  split_ifs
  · simp only [List.forall_mem_append, List.forall_mem_cons, List.not_mem_nil, false_implies,
      implies_true, and_true]
    refine ⟨⟨⟨⟨by decide, by decide⟩, isVerdict_phaseLines _ _⟩, isVerdict_phaseLines _ _⟩, ?_⟩
    rw [String.append_assoc]
    exact isVerdict_append (by decide) _
  · simp only [List.forall_mem_cons, List.not_mem_nil, false_implies, implies_true, and_true]
    exact ⟨by decide, by decide, isVerdict_append (by decide) _, by decide⟩
  · simp

theorem isVerdict_metricsLines (metrics : Metrics) :
    ∀ line ∈ metricsLines metrics, isVerdict line = false := by
  unfold metricsLines
  split
  · simp
  · simp only [List.forall_mem_append, List.forall_mem_cons, List.not_mem_nil, false_implies,
      implies_true, and_true]
    refine ⟨⟨by decide, by decide, ?_, isVerdict_append (by decide) _,
      isVerdict_append (by decide) _, isVerdict_append (by decide) _,
      isVerdict_append (by decide) _, isVerdict_append (by decide) _⟩, isVerdict_usageLines metrics⟩
    rw [String.append_assoc]
    exact isVerdict_append (by decide) _

/-! ### The verdict -/

namespace Report

/-- The line of the result that says whether all is well. -/
def verdict (report : Report) (violationsOnly : Bool) : String :=
  if violationsOnly && report.allPassed then "NO VIOLATIONS FOUND"
  else "OVERALL RESULT: " ++ (if report.passed then "PASSED" else "FAILED") ++ " ("
    ++ percentText report.average ++ " average)"

theorem filter_resultLines (report : Report) (violationsOnly : Bool) :
    (report.resultLines violationsOnly).filter isVerdict = [report.verdict violationsOnly] := by
  have hrule : isVerdict rule = false := by decide
  unfold resultLines verdict
  split
  · decide
  · have hresult : isVerdict ("OVERALL RESULT: " ++ ((if report.passed then "PASSED" else "FAILED")
        ++ (" (" ++ (percentText report.average ++ " average)")))) = true := by
      unfold isVerdict beginsWith
      rw [String.toList_append, List.isPrefixOf_iff_prefix.mpr (List.prefix_append _ _)]
      rfl
    have hsummary : isVerdict ("VIOLATIONS SUMMARY: " ++ (natText report.errorCount ++ (" errors, "
        ++ (natText report.warningCount ++ " warnings")))) = false :=
      isVerdict_append (by decide) _
    simp only [String.append_assoc, List.filter_cons, hrule, hresult, hsummary, List.filter_nil,
      if_true, Bool.false_eq_true, if_false]

/-- Of the lines of a report one is a verdict. -/
theorem filter_lines_isVerdict (report : Report) (metrics? : Option Metrics)
    (violationsOnly : Bool) :
    (report.lines metrics? violationsOnly).filter isVerdict = [report.verdict violationsOnly] := by
  have hhead : [rule, "VALIDATION REPORT", rule, ""].filter isVerdict = [] := by decide
  have hchecks : ((report.shownChecks violationsOnly).flatMap Check.lines).filter isVerdict
      = [] := by
    rw [List.filter_eq_nil_iff]
    intro line hline
    obtain ⟨check, -, hline⟩ := List.mem_flatMap.mp hline
    rw [isVerdict_checkLines check line hline]
    exact Bool.false_ne_true
  have hmetrics : ((metrics?.map metricsLines).getD []).filter isVerdict = [] := by
    rw [List.filter_eq_nil_iff]
    intro line hline
    cases metrics? with
    | none => cases hline
    | some metrics =>
      rw [isVerdict_metricsLines metrics line hline]
      exact Bool.false_ne_true
  unfold lines
  rw [List.filter_append, List.filter_append, List.filter_append, hhead, hchecks, hmetrics,
    filter_resultLines]
  rfl

/-- What a verdict announces is what the report passes by, or that all checks pass where only
violations are shown. -/
theorem announcesSuccess_verdict (report : Report) (violationsOnly : Bool) :
    announcesSuccess (report.verdict violationsOnly) = true ↔
      report.passed = true ∨ violationsOnly = true ∧ report.allPassed = true := by
  unfold verdict
  by_cases hnone : (violationsOnly && report.allPassed) = true
  · rw [if_pos hnone]
    rw [Bool.and_eq_true] at hnone
    exact iff_of_true (by decide) (.inr hnone)
  · rw [if_neg hnone]
    rw [Bool.and_eq_true] at hnone
    rw [or_iff_left hnone, String.append_assoc, String.append_assoc]
    unfold announcesSuccess
    cases report.passed
    · have hfailed : "OVERALL RESULT: " ++ (if false = true then "PASSED" else "FAILED")
          = "OVERALL RESULT: FAILED" := by decide
      rw [hfailed, beginsWith_append (by decide), beginsWith_append (by decide)]
      decide
    · have hpassed : "OVERALL RESULT: " ++ (if true = true then "PASSED" else "FAILED")
          = "OVERALL RESULT: PASSED" := by decide
      rw [hpassed, beginsWith_append (by decide), beginsWith_append (by decide)]
      decide

/-- A report is printed with one verdict, and this announces success exactly where the report
passes, unless only violations are shown, every check passes, and the average is too low. -/
theorem announcesSuccess_iff (report : Report) (metrics? : Option Metrics)
    (violationsOnly : Bool) :
    ∃ line, (report.lines metrics? violationsOnly).filter isVerdict = [line] ∧
      ((announcesSuccess line = true ↔ report.passed = true) ↔
        ¬ (violationsOnly = true ∧ report.allPassed = true ∧
          report.leastAverage.le report.average = false)) := by
  refine ⟨_, report.filter_lines_isVerdict metrics? violationsOnly, ?_⟩
  rw [announcesSuccess_verdict]
  unfold passed
  cases violationsOnly <;> cases report.allPassed <;>
    cases report.leastAverage.le report.average <;> decide

/-- A description that every check of its content accepts. -/
def soundSpec : Spec := ⟨.object [("openapi", .text "3.0.0"),
  ("info", .object [("title", .text "Notes"), ("version", .text "1")]),
  ("paths", .object [("/notes", .object [("get", .object [])])])]⟩

/-- The report on `soundSpec` after work that took a quarter longer than the baseline. -/
def slowReport : Report := .make {} soundSpec soundSpec ⟨1250000000⟩ (some ⟨1000000000⟩)

/-- Every check of `slowReport` passes, the one of the time without a point, so its average is 80
where 85 is asked for: no violation is announced of a report that does not pass. -/
theorem not_announcesSuccess_iff :
    ∃ line, (slowReport.lines none true).filter isVerdict = [line] ∧
      announcesSuccess line = true ∧ slowReport.allPassed = true ∧ slowReport.passed = false := by
  have hall : slowReport.allPassed = true := by decide +kernel
  have hpassed : slowReport.passed = false := by decide +kernel
  exact ⟨_, slowReport.filter_lines_isVerdict none true,
    (slowReport.announcesSuccess_verdict true).mpr (.inr ⟨rfl, hall⟩), hall, hpassed⟩

end Report

end ApiTools.Compliance
