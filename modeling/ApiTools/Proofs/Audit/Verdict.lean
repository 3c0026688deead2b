import ApiTools.Audit
import ApiTools.Proofs.Text.Order
import Mathlib.Data.List.Duplicate

/-!
# The verdict of an audit

An audit collects what breaks the rules: the names that occur more than once with the files in which
they do (`mem_repeatedNames_iff`), the functions whose names are too long, and those that are not
registered.  There is one error for each kind that occurs, so that an audit is passed exactly where
nothing breaks the rules (`ProjectAudit.passed_make_iff`).  What is only warned about, and the order
of the functions, play no part in that (`ProjectAudit.verdict_make`).
-/

namespace ApiTools

open Audit

namespace Audit

variable {functions : List ToolFunction} {name : String} {files : List String}

/-! ### Names that are repeated -/

theorem length_filesOf (name : String) (functions : List ToolFunction) :
    (filesOf name functions).length = (functions.map ToolFunction.name).count name := by
  unfold filesOf
  rw [List.length_map, List.count_eq_countP, List.countP_map, List.countP_eq_length_filter]
  rfl

/-- The repeated names are listed with the files of all functions that have them. -/
theorem mem_repeatedNames_iff : (name, files) ∈ repeatedNames functions ↔
    List.Duplicate name (functions.map ToolFunction.name) ∧ files = filesOf name functions := by
  unfold repeatedNames
  simp only [List.mem_filter, List.mem_map, Prod.mk.injEq, decide_eq_true_eq,
    List.duplicate_iff_two_le_count, ← length_filesOf]
  constructor
  · rintro ⟨⟨name, -, rfl, rfl⟩, hlength⟩
    exact ⟨hlength, rfl⟩
  · rintro ⟨hlength, rfl⟩
    have hmem : name ∈ functions.map ToolFunction.name := by
      rw [← List.count_pos_iff, ← length_filesOf]
      omega
    exact ⟨⟨name, Text.mem_sortedOnce.mpr hmem, rfl, rfl⟩, hlength⟩

/-- The repeated names are in order, each once. -/
theorem pairwise_repeatedNames (functions : List ToolFunction) :
    ((repeatedNames functions).map Prod.fst).Pairwise (· < ·) := by
  have hsublist : ((repeatedNames functions).map Prod.fst).Sublist
      (Text.sortedOnce (functions.map ToolFunction.name)) := by
    unfold repeatedNames
    refine (List.filter_sublist.map Prod.fst).trans ?_
    rw [List.map_map]
    exact (List.map_id _).symm ▸ List.Sublist.refl _
  exact (Text.pairwise_sortedOnce _).sublist hsublist

theorem repeatedNames_eq_nil_iff :
    repeatedNames functions = [] ↔ (functions.map ToolFunction.name).Nodup := by
  rw [List.nodup_iff_forall_not_duplicate, List.eq_nil_iff_forall_not_mem]
  constructor
  · intro h name hname
    exact h (name, _) (mem_repeatedNames_iff.mpr ⟨hname, rfl⟩)
  · rintro h ⟨name, files⟩ hmem
    exact h name (mem_repeatedNames_iff.mp hmem).1

theorem countError_eq_nil_iff {α : Type} {found : List α} {text : String} :
    countError found text = [] ↔ found = [] := by
  unfold countError
  cases found <;> simp

end Audit

/-! ### What an audit says -/

namespace ProjectAudit

variable {limits : NameLimits} {project : String} {warnings registered : List String}
  {functions : List ToolFunction}

/-- An audit finds no function that is not registered where all are. -/
theorem unregistered_make (h : ∀ f ∈ functions, f.name ∈ registered) :
    (make limits project warnings functions registered).unregistered = [] := by
  show functions.filter (fun f => !registered.contains f.name) = []
  rw [List.filter_eq_nil_iff]
  intro f hf
  simpa using h f hf

/-- An audit is passed when it finds nothing that is an error. -/
theorem passed_make_iff_findings (limits : NameLimits) (project : String)
    (warnings : List String) (functions : List ToolFunction) (registered : List String) :
    (make limits project warnings functions registered).passed = true ↔
      (make limits project warnings functions registered).duplicates = [] ∧
        (make limits project warnings functions registered).tooLong = [] ∧
        (make limits project warnings functions registered).unregistered = [] := by
  unfold passed make
  dsimp only
  rw [List.isEmpty_iff, List.append_eq_nil_iff, List.append_eq_nil_iff, countError_eq_nil_iff,
    countError_eq_nil_iff, countError_eq_nil_iff, and_assoc]

/-- An audit is passed when the names are distinct, not too long and registered. -/
theorem passed_make_iff :
    (make limits project warnings functions registered).passed = true ↔
      (functions.map ToolFunction.name).Nodup ∧
        (∀ f ∈ functions, f.name.toList.length ≤ limits.maximum) ∧
        ∀ f ∈ functions, f.name ∈ registered := by
  rw [passed_make_iff_findings]
  unfold make
  dsimp only
  simp only [repeatedNames_eq_nil_iff, List.filter_eq_nil_iff, decide_eq_true_eq, not_lt,
    Bool.not_eq_true', Bool.not_eq_false, List.contains_iff_mem]
  exact Iff.rfl

/-- The verdict depends on the names alone, and not on their order. -/
theorem passed_make_congr {limits' : NameLimits} {project' : String} {warnings' : List String}
    {functions' : List ToolFunction} (hmaximum : limits'.maximum = limits.maximum)
    (hperm : functions'.Perm functions) :
    (make limits' project' warnings' functions' registered).passed
      = (make limits project warnings functions registered).passed := by
  rw [Bool.eq_iff_iff, passed_make_iff, passed_make_iff, hmaximum,
    (hperm.map ToolFunction.name).nodup_iff]
  simp only [hperm.mem_iff]

/-- An audit is passed exactly where the names of the functions are distinct, none is too long and
all are registered.  It maps the repeated names to the files of all functions that have them, and
lists the functions whose names are too long and those that are not registered, in the order of the
functions.  The warnings and what they are about play no part in the verdict, nor does the order of
the functions. -/
theorem verdict_make (limits : NameLimits) (project : String) (warnings : List String)
    (functions : List ToolFunction) (registered : List String) :
    let audit := make limits project warnings functions registered
    (audit.passed = true ↔ functions.Pairwise (fun f g => f.name ≠ g.name) ∧
      (∀ f ∈ functions, f.length ≤ limits.maximum) ∧ ∀ f ∈ functions, f.name ∈ registered) ∧
    ((audit.duplicates.map Prod.fst).Pairwise (· < ·) ∧
      ∀ name files, (name, files) ∈ audit.duplicates ↔
        List.Duplicate name (functions.map ToolFunction.name) ∧
          files = (functions.filter (·.name = name)).map ToolFunction.file) ∧
    audit.tooLong = functions.filter (limits.maximum < ·.length) ∧
    audit.unregistered = functions.filter (·.name ∉ registered) ∧
    (∀ target project' warnings',
      (make { limits with target } project' warnings' functions registered).passed = audit.passed) ∧
    ∀ functions' : List ToolFunction, functions'.Perm functions →
      (make limits project warnings functions' registered).passed = audit.passed := by
  intro audit
  refine ⟨?passed, ⟨pairwise_repeatedNames functions, ?duplicates⟩, rfl, ?unregistered, ?warnings,
    ?order⟩
  case passed =>
    refine passed_make_iff.trans ?_
    rw [List.Nodup, List.pairwise_map]
    rfl
  case duplicates =>
    intro name files
    have hfiles : filesOf name functions
        = (functions.filter (·.name = name)).map ToolFunction.file := by
      unfold filesOf
      congr 2
    rw [← hfiles]
    exact mem_repeatedNames_iff
  case unregistered =>
    refine List.filter_congr fun f _ => ?_
    simp
  case warnings =>
    exact fun _ _ _ => passed_make_congr rfl (.refl functions)
  case order =>
    exact fun _ hperm => passed_make_congr rfl hperm

end ProjectAudit

end ApiTools
