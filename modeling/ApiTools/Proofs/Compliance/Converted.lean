import ApiTools.Compliance.Check
import ApiTools.Proofs.Normalize.Frame

/-!
# The check of a conversion

Normalization converts a description of format 2.0, and a check says whether the result is one of
the current format.  The two do not agree on what a finished conversion is: the check counts six
fields as left over from format 2.0, of which a conversion takes out four.  So what the check finds
depends on the two that stay, and on the two fields that every description needs
(`conversionFindings_normalize`).  `conversionCheck_normalize` reads off the verdict.
-/

namespace ApiTools

/-! ### Fields of the normal form -/

namespace Normalize

variable {doc : Document} {key : String}

/-- The path items are fixed where they stand. -/
theorem has_paths_normalize (doc : Document) : (normalize doc).1.has "paths" = doc.has "paths" := by
  unfold Document.has
  rcases Document.getMembers?_cases (convertSwagger2 doc).1 "paths" with h | ⟨ms, paths, hms, h⟩
  · rw [normalize_of_none h, get?_paths_convertSwagger2]
  · have hbefore : doc.get? "paths" = some (.object paths) := by
      rw [← get?_paths_convertSwagger2, hms]
      exact h
    have hafter : (normalize doc).1.get? "paths" = some (.object (fixItems paths).1) := by
      rw [normalize_of_paths hms h]
      exact Members.get?_set_self _ _ _
    rw [hbefore, hafter]
    rfl

/-- A conversion takes out and puts in only the fields that tell the format and the server. -/
theorem has_normalize (hkey : key ∉ rootKeys) : (normalize doc).1.has key = doc.has key := by
  by_cases hpaths : key = "paths"
  · subst hpaths
    exact has_paths_normalize doc
  cases h : Spec.isSwagger2 ⟨doc⟩ with
  | false =>
    unfold Document.has
    rw [get?_normalize doc hpaths, convertSwagger2_of_not h]
  | true =>
    obtain ⟨ms, rfl, -, hconvert⟩ := convertSwagger2_of_isSwagger2 h
    -- The key is none that is put in and none that is taken out.
    have hne : key ≠ "servers" ∧ key ≠ "openapi" ∧ key ∉ obsoleteRoot := by
      refine ⟨?_, ?_, fun hmem => hkey ?_⟩
      · rintro rfl
        exact hkey (by decide)
      · rintro rfl
        exact hkey (by decide)
      · revert hmem
        simp only [obsoleteRoot, rootKeys, List.mem_cons]
        tauto
    unfold Document.has
    rw [get?_normalize _ hpaths, hconvert]
    show (Members.get? (convertRoot ms) key).isSome = (Members.get? ms key).isSome
    rw [get?_convertRoot ms hne.1, if_neg hne.2.2, if_neg hne.2.1]

end Normalize

namespace Compliance

open Normalize

/-! ### Findings of several parts -/

namespace Findings

@[simp] theorem all_nil : all [] = {} := rfl

@[simp] theorem points_all_cons (part : Findings) (rest : List Findings) :
    (all (part :: rest)).points = part.points + (all rest).points := rfl

@[simp] theorem errors_all_cons (part : Findings) (rest : List Findings) :
    (all (part :: rest)).errors = part.errors ++ (all rest).errors := rfl

@[simp] theorem warnings_all_cons (part : Findings) (rest : List Findings) :
    (all (part :: rest)).warnings = part.warnings ++ (all rest).warnings := rfl

end Findings

variable {spec : Spec}

theorem points_fieldFindings (spec : Spec) (field : String) (points : Nat) :
    (fieldFindings spec field points).points = if spec.root.has field then points else 0 := by
  unfold fieldFindings
  split_ifs <;> rfl

theorem errors_fieldFindings (spec : Spec) (field : String) (points : Nat) :
    (fieldFindings spec field points).errors
      = if spec.root.has field then [] else ["Missing required field: " ++ field] := by
  unfold fieldFindings
  split_ifs <;> rfl

theorem warnings_fieldFindings (spec : Spec) (field : String) (points : Nat) :
    (fieldFindings spec field points).warnings = [] := by
  unfold fieldFindings
  split_ifs <;> rfl

/-! ### What is found about a converted description -/

/-- The fields of format 2.0 that a conversion leaves where they are. -/
def leftFields (spec : Spec) : List String := ["consumes", "produces"].filter spec.root.has

theorem remainingFields_normalize (h : spec.isSwagger2 = true) :
    remainingFields ⟨(normalize spec.root).1⟩ = leftFields spec := by
  obtain ⟨-, -, hobsolete⟩ := get?_normalize_of_isSwagger2 h
  have hgone : ∀ key ∈ ["swagger", "host", "basePath", "schemes"],
      (normalize spec.root).1.has key = false := by
    intro key hkey
    unfold Document.has
    rw [hobsolete key hkey]
    rfl
  simp only [List.forall_mem_cons] at hgone
  obtain ⟨hswagger, hhost, hbasePath, hschemes, -⟩ := hgone
  have hconsumes : (normalize spec.root).1.has "consumes" = spec.root.has "consumes" :=
    has_normalize (by decide)
  have hproduces : (normalize spec.root).1.has "produces" = spec.root.has "produces" :=
    has_normalize (by decide)
  unfold remainingFields legacyFields leftFields
  simp only [List.filter_cons, hswagger, hhost, hbasePath, hschemes, hconsumes, hproduces,
    List.filter_nil, Bool.false_eq_true, if_false]

theorem leftFields_eq_nil : leftFields spec = [] ↔
    spec.root.has "consumes" = false ∧ spec.root.has "produces" = false := by
  unfold leftFields
  rw [List.filter_eq_nil_iff]
  simp

/-- What is found about the fields that are left over. -/
def leftFindings (spec : Spec) : Findings :=
  if (leftFields spec).isEmpty then .award 20
  else .warning ("Swagger 2.0 fields still present: " ++ Text.Shown.encodeList (leftFields spec))

theorem points_leftFindings (spec : Spec) :
    (leftFindings spec).points = if leftFields spec = [] then 20 else 0 := by
  unfold leftFindings
  cases leftFields spec <;> rfl

theorem errors_leftFindings (spec : Spec) : (leftFindings spec).errors = [] := by
  unfold leftFindings
  split_ifs <;> rfl

theorem warnings_leftFindings : (leftFindings spec).warnings = [] ↔ leftFields spec = [] := by
  unfold leftFindings
  cases leftFields spec <;> simp [Findings.award, Findings.warning]

/-- A conversion writes the version and sees to the servers, so fault can be found only with the
fields that are left over and with those that are required. -/
theorem conversionFindings_normalize (h : spec.isSwagger2 = true) :
    conversionFindings spec ⟨(normalize spec.root).1⟩ =
      .all [.all [.award 30, leftFindings spec, .award 20],
        fieldFindings spec "info" 15, fieldFindings spec "paths" 15] := by
  obtain ⟨hversion, ⟨server, servers, hservers⟩, -⟩ := get?_normalize_of_isSwagger2 h
  have hdeclared : declaredVersion? ⟨(normalize spec.root).1⟩ = some "3.0.0" := by
    unfold declaredVersion?
    rw [hversion]
    rfl
  have hhasServers : hasServers ⟨(normalize spec.root).1⟩ = true := by
    unfold hasServers
    rw [hservers]
    rfl
  have hfield : ∀ field ∉ rootKeys, fieldFindings ⟨(normalize spec.root).1⟩ field 15
      = fieldFindings spec field 15 := by
    intro field hne
    unfold fieldFindings
    rw [has_normalize hne]
  unfold conversionFindings convertedFindings
  rw [if_pos h, hdeclared, hhasServers, remainingFields_normalize h, hfield _ (by decide),
    hfield _ (by decide)]
  rfl

/-! ### The verdict -/

section Converted

variable (h : spec.isSwagger2 = true)

include h

theorem errors_normalize : (conversionFindings spec ⟨(normalize spec.root).1⟩).errors = [] ↔
    spec.root.has "info" = true ∧ spec.root.has "paths" = true := by
  rw [conversionFindings_normalize h]
  simp only [Findings.errors_all_cons, Findings.all_nil, Findings.award, errors_leftFindings,
    errors_fieldFindings, List.append_eq_nil_iff, true_and, and_true]
  cases spec.root.has "info" <;> cases spec.root.has "paths" <;> simp

theorem warnings_normalize : (conversionFindings spec ⟨(normalize spec.root).1⟩).warnings = [] ↔
    leftFields spec = [] := by
  rw [conversionFindings_normalize h]
  simp only [Findings.warnings_all_cons, Findings.all_nil, Findings.award, warnings_leftFindings,
    warnings_fieldFindings, List.append_eq_nil_iff, true_and, and_true]

/-- Without an error only the points for the fields that are left over can be missing. -/
theorem points_normalize
    (hnone : (conversionFindings spec ⟨(normalize spec.root).1⟩).errors = []) :
    (conversionFindings spec ⟨(normalize spec.root).1⟩).points
      = if leftFields spec = [] then 100 else 80 := by
  obtain ⟨hinfo, hpaths⟩ := (errors_normalize h).mp hnone
  rw [conversionFindings_normalize h]
  simp only [Findings.points_all_cons, Findings.all_nil, Findings.award, points_leftFindings,
    points_fieldFindings, hinfo, hpaths, if_true]
  split_ifs <;> rfl

end Converted

/-- The check of a normalized description that was of format 2.0 finds an error exactly where a
required field is missing, and warns exactly of the fields that are left over; by the default
measure it passes exactly where it finds nothing. -/
theorem conversionCheck_normalize (thresholds : Thresholds) (h : spec.isSwagger2 = true) :
    let check := conversionCheck thresholds spec ⟨(normalize spec.root).1⟩
    (check.errors = [] ↔ spec.root.has "info" = true ∧ spec.root.has "paths" = true) ∧
      (check.warnings = [] ↔
        spec.root.has "consumes" = false ∧ spec.root.has "produces" = false) ∧
      Members.get? check.details "remaining_swagger_fields" = some (.ofTexts (leftFields spec)) ∧
      (thresholds.conversion = Thresholds.conversion {} →
        (check.passed = true ↔ check.errors = [] ∧ check.warnings = [])) := by
  intro check
  have hdetails : Members.get? check.details "remaining_swagger_fields"
      = some (.ofTexts (if spec.isSwagger2 then remainingFields ⟨(normalize spec.root).1⟩
          else [])) := rfl
  have hpassed : check.passed = (check.errors.isEmpty && thresholds.conversion.le
      (Binary64.ofNat (conversionFindings spec ⟨(normalize spec.root).1⟩).points)) := rfl
  have hwarnings : check.warnings = [] ↔ leftFields spec = [] := warnings_normalize h
  rw [if_pos h, remainingFields_normalize h] at hdetails
  refine ⟨errors_normalize h, hwarnings.trans leftFields_eq_nil, hdetails, fun hdefault => ?_⟩
  -- A field that is left over costs 20 points, and the default measure is above what remains.
  have hmeasure : (Thresholds.conversion {}).le (Binary64.ofNat 80) = false ∧
      (Thresholds.conversion {}).le (Binary64.ofNat 100) = true := by decide +kernel
  rw [hpassed, hdefault, Bool.and_eq_true, List.isEmpty_iff]
  refine and_congr_right fun hnone => ?_
  rw [points_normalize h hnone, hwarnings]
  split_ifs with hnil
  · exact iff_of_true hmeasure.2 hnil
  · exact iff_of_false (by rw [hmeasure.1]; exact Bool.false_ne_true) hnil

/-- A description of format 2.0, marked by a number, that says what its operations consume and has
an empty list of servers. -/
def notesSwagger : Spec := ⟨.object [("swagger", .number (.int 2)), ("host", .text "notes.test"),
  ("consumes", .list []), ("servers", .list []), ("info", .null), ("paths", .object [])]⟩

/-- One field is left over, so the check of `notesSwagger` finds no error and does not pass. -/
theorem conversionCheck_normalize_notesSwagger :
    notesSwagger.isSwagger2 = true ∧
      let check := conversionCheck {} notesSwagger ⟨(normalize notesSwagger.root).1⟩
      check.errors = [] ∧ check.warnings ≠ [] ∧
        Members.get? check.details "remaining_swagger_fields" = some (.ofTexts ["consumes"]) ∧
        check.passed = false := by
  have h : notesSwagger.isSwagger2 = true := by decide +kernel
  obtain ⟨herrors, hwarnings, hdetails, hpassed⟩ := conversionCheck_normalize {} h
  have hwarned : (conversionCheck {} notesSwagger
      ⟨(normalize notesSwagger.root).1⟩).warnings ≠ [] := by
    rw [Ne, hwarnings]
    decide
  refine ⟨h, herrors.mpr (by decide), hwarned, hdetails, ?_⟩
  rw [Bool.eq_false_iff, Ne, hpassed rfl]
  exact fun hnone => hwarned hnone.2

end Compliance

end ApiTools
