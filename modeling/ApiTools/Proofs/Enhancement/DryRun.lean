import ApiTools.Proofs.Enhancement.Kept
import ApiTools.Proofs.Files.Logged

/-!
# Dry runs

A description can be enhanced in a dry run, which writes nothing.  It foretells what comes of the
same run when it writes (`Enhancer.dryRun_foretells`): the files stay as they are, and the result is
the same but for the times and for where things are kept, so long as every write of the other run
succeeds.
-/

namespace ApiTools

open Logged

namespace Writer

variable {dry real : Writer Logged}

/-! ### Files of a project -/

/-- What became of a file is recorded alike, in whatever report. -/
def SameRecord (rendered rendered' : Rendered) : Prop :=
  ∀ (report : EmitReport) (path : String), report.record path rendered = report.record path rendered'

/-- Without a formatter a file is only written. -/
theorem write_eq (hformatter : real.formatter? = none) (path content : String) :
    real.write path content = (do
      FileStore.attempt (FileStore.createDirectories ((Path.parent? path).getD ""))
      FileStore.attempt (FileStore.writeAtomic path content)
      return .written : ExceptT Failure Logged Rendered) := by
  unfold write FileStore.attempt
  rw [bind_assoc]
  refine bind_congr fun made => ?_
  cases made with
  | error cause => rfl
  | ok done =>
    rw [pure_bind, bind_assoc]
    refine bind_congr fun written => ?_
    cases written with
    | error cause => rfl
    | ok done =>
      unfold format
      rw [hformatter]
      rfl

theorem settles_write (hformatter : real.formatter? = none) (path content : String) :
    Settles (· = .written) (real.write path content) := by
  rw [write_eq hformatter]
  exact (settles_attempt (succeeds_createDirectories _)).bind fun _ _ =>
    (settles_attempt (succeeds_writeAtomic path content)).bind fun _ _ => settles_pure rfl

theorem foretells_render (hdry : dry.dryRun = true) (hreal : real.dryRun = false)
    (hformatter : real.formatter? = none) (path : String) (template : TemplateName)
    (values : Document) :
    Foretells SameRecord (dry.render path template values) (real.render path template values) := by
  unfold render
  cases Template.renderNamed template.text values with
  | error cause => exact .throw _
  | ok content =>
    dsimp only
    rw [hdry, if_pos rfl, hreal, if_neg Bool.false_ne_true]
    refine .of_settles (settles_write hformatter path content) ?_
    rintro _ rfl _ _
    rfl

theorem isQuiet_render (hdry : dry.dryRun = true) (path : String) (template : TemplateName)
    (values : Document) : IsQuiet (dry.render path template values).run := by
  unfold render
  cases Template.renderNamed template.text values with
  | error cause => exact isQuiet_pure _
  | ok content =>
    dsimp only
    rw [hdry]
    exact isQuiet_pure _

/-- The report with a file that was made or not. -/
def settle (report : EmitReport) (artifact : Artifact) :
    Except Failure Rendered → Except Failure EmitReport
  | .ok rendered => .ok (report.record artifact.path rendered)
  | .error cause =>
    if artifact.isEssential then .error (.artifact artifact.path cause)
    else .ok { report with failed := report.failed ++ [(artifact.path, cause.message)] }

theorem run_emitArtifact_eq (writer : Writer Logged) (report : EmitReport) (artifact : Artifact) :
    (writer.emitArtifact report artifact).run = settle report artifact <$>
      (writer.render artifact.path artifact.template (.object artifact.values)).run := by
  unfold emitArtifact
  simp only [ExceptT.run_bind, ExceptT.run_tryCatch, EarlyReturn.runK, map_eq_pure_bind, bind_assoc]
  refine bind_congr fun rendered => ?_
  cases rendered with
  | error cause =>
    unfold settle
    cases artifact.isEssential with
    | false => rfl
    | true => rfl
  | ok rendered => rfl

theorem foretells_emitArtifact (hdry : dry.dryRun = true) (hreal : real.dryRun = false)
    (hformatter : real.formatter? = none) (report : EmitReport) (artifact : Artifact) :
    Foretells Eq (dry.emitArtifact report artifact) (real.emitArtifact report artifact) := by
  intro tree tree' hall
  rw [run_emitArtifact_eq] at hall
  have hend := foretells_render hdry hreal hformatter artifact.path artifact.template
    (.object artifact.values) tree tree' hall
  rw [run_emitArtifact_eq, run_emitArtifact_eq, answer_map, answer_map]
  generalize (dry.render artifact.path artifact.template (.object artifact.values)).run.answer tree
    = result, (real.render artifact.path artifact.template (.object artifact.values)).run.answer
    tree' = result' at hend
  cases hend with
  | ok hsame => exact .ok (hsame report artifact.path)
  | error cause =>
    unfold settle
    cases artifact.isEssential with
    | false => exact .ok rfl
    | true => exact .error _

theorem isQuiet_emitArtifact (hdry : dry.dryRun = true) (report : EmitReport)
    (artifact : Artifact) : IsQuiet (dry.emitArtifact report artifact).run := by
  rw [run_emitArtifact_eq]
  exact isQuiet_render hdry _ _ _

/-- The report on a project is the same in a dry run. -/
theorem foretells_emit (hdry : dry.dryRun = true) (hreal : real.dryRun = false)
    (hformatter : real.formatter? = none) (plan : ProjectPlan) :
    Foretells Eq (dry.emit plan) (real.emit plan) :=
  .foldlM (fun _ _ artifact hreport =>
    hreport ▸ foretells_emitArtifact hdry hreal hformatter _ artifact) plan.artifacts rfl

theorem isQuiet_emit (hdry : dry.dryRun = true) (plan : ProjectPlan) :
    IsQuiet (dry.emit plan).run :=
  isQuiet_foldlM (isQuiet_emitArtifact hdry) plan.artifacts _

end Writer

theorem Spec.isQuiet_load (path : String) :
    IsQuiet (load path : ExceptT Failure Logged Spec).run := by
  unfold load
  split
  · exact isQuiet_pure _
  · refine (isQuiet_read path).lift_bind_run fun answer => ?_
    cases answer with
    | error cause => exact isQuiet_pure _
    | ok text =>
      dsimp only
      cases Spec.read text with
      | error cause => exact isQuiet_pure _
      | ok spec => exact isQuiet_pure _

/-! ### Results that differ in times -/

/-- The check, unless it is the one of the time. -/
def Compliance.Check.untimed? (check : Compliance.Check) : Option Compliance.Check :=
  if check.name = "performance" then none else some check

/-- The second result is that of a run that was foretold by the first one: nothing is kept for the
first one, and apart from that the two differ in what depends on the time only. -/
structure Enhancement.Foretold (rehearsed result : Enhancement) : Prop where
  normalization : rehearsed.normalization = result.normalization
  project : rehearsed.project? = result.project?
  questions : rehearsed.questions = result.questions
  counted : { rehearsed.metrics with processingTime? := none }
    = { result.metrics with processingTime? := none }
  checks : rehearsed.report.checks.map Compliance.Check.untimed?
    = result.report.checks.map Compliance.Check.untimed?
  leastAverage : rehearsed.report.leastAverage = result.report.leastAverage
  /-- Runs that take the same time have the same report. -/
  sameTime : rehearsed.metrics.processingTime? = result.metrics.processingTime? →
    rehearsed.report = result.report
  unkept : rehearsed.overlayPath? = none ∧ rehearsed.specPath? = none ∧ rehearsed.gatewayPath? = none

theorem Metrics.finish_untimed (metrics : Metrics) (elapsed elapsed' : Duration) :
    { metrics.finish elapsed with processingTime? := none }
      = { metrics.finish elapsed' with processingTime? := none } := by
  unfold Metrics.finish
  split
  · rfl
  · rfl

namespace Enhancer

variable {dry real : Enhancer Logged}

/-! ### The stages of a run -/

/-- The overlay is kept where there is one. -/
def keepAny (enhancer : Enhancer Logged) (options : EnhancementOptions) :
    Option Overlaid → ExceptT Failure Logged (Option String)
  | some overlaid => enhancer.keepOverlay options overlaid.generated.overlay
  | none => pure none

/-- The project is generated where one is wanted. -/
def emitWanted (enhancer : Enhancer Logged) (options : EnhancementOptions) (spec : Spec)
    (asked : Nat) (directory : String) :
    ExceptT Failure Logged (Option (EmitReport × List Question)) :=
  if options.overlayOnly then pure none else some <$> enhancer.emit spec asked directory

/-- What is told of a run that took a time. -/
def outcome (enhancer : Enhancer Logged) (options : EnhancementOptions) (initial : Spec)
    (overlaid? : Option Overlaid) (normalized : Document × NormalizationStats)
    (project? : Option (EmitReport × List Question)) (elapsed : Duration)
    (overlayPath? specPath? gatewayPath? : Option String) : Enhancement :=
  { report := .make enhancer.thresholds initial ⟨normalized.1⟩ elapsed options.baseline?
    metrics := count initial ⟨normalized.1⟩ overlaid? normalized.2 (project?.map Prod.fst) elapsed
    normalization := normalized.2
    project? := project?.map Prod.fst
    overlayPath?
    specPath?
    gatewayPath?
    questions := (overlaid?.map (·.generated.questions)).getD []
      ++ (project?.map Prod.snd).getD [] }

/-- Enhances a description that was read after the run had started. -/
def improve (enhancer : Enhancer Logged) (started : Duration) (initial : Spec)
    (directory : String) (options : EnhancementOptions) (overlaid? : Option Overlaid) :
    ExceptT Failure Logged Enhancement := do
  let overlayPath? ← enhancer.keepAny options overlaid?
  let normalized := normalize ((overlaid?.map Overlaid.spec).getD initial).root
  let specPath? ← enhancer.keepSpec options directory ⟨normalized.1⟩
  let asked := (overlaid?.map (·.generated.questions)).getD []
  let project? ← enhancer.emitWanted options ⟨normalized.1⟩ asked.length directory
  let gatewayPath? ← enhancer.keepGateway specPath?
  let ended ← (enhancer.clock : Logged _)
  return enhancer.outcome options initial overlaid? normalized project?
    ⟨ended.nanoseconds - started.nanoseconds⟩ overlayPath? specPath? gatewayPath?

theorem enhance_eq (enhancer : Enhancer Logged) (source directory : String)
    (options : EnhancementOptions) :
    enhancer.enhance source directory options = (do
      let started ← (enhancer.clock : Logged _)
      let initial ← Spec.load source
      enhancer.improve started initial directory options
        (if options.skipOverlay then none else some (enhancer.overlaid initial)) :
      ExceptT Failure Logged Enhancement) := by
  unfold enhance improve keepAny emitWanted
  refine bind_congr fun started => bind_congr fun initial => ?_
  -- Whichever stages are left out, the run goes on in the same way.
  cases options.skipOverlay <;> cases options.overlayOnly <;> rfl

theorem processingTime?_count (initial enhanced : Spec) (overlaid? : Option Overlaid)
    (normalization : NormalizationStats) (project? : Option EmitReport) (elapsed : Duration) :
    (count initial enhanced overlaid? normalization project? elapsed).processingTime?
      = some elapsed := by
  cases overlaid? <;> cases project? <;> rfl

/-! ### Runs that write nothing -/

/-- Where no description is kept, there is none that a gateway could refer to. -/
theorem keepGateway_none (enhancer : Enhancer Logged) : enhancer.keepGateway none = pure none := by
  unfold keepGateway
  cases enhancer.settings.gateway? with
  | none => rfl
  | some gateway => rfl

section Quiet

variable (hdry : dry.writer.dryRun = true)

include hdry

theorem keepAny_of_dryRun (options : EnhancementOptions) (overlaid? : Option Overlaid) :
    dry.keepAny options overlaid? = pure none := by
  cases overlaid? with
  | none => rfl
  | some overlaid =>
    unfold keepAny keepOverlay
    cases options.overlayPath? with
    | none => rfl
    | some path => exact if_pos hdry

theorem keepSpec_of_dryRun (options : EnhancementOptions) (directory : String) (spec : Spec) :
    dry.keepSpec options directory spec = pure none := by
  unfold keepSpec
  cases dry.keptSpecPath? options directory with
  | none => rfl
  | some path => exact if_pos hdry

theorem isQuiet_emitWanted (options : EnhancementOptions) (spec : Spec) (asked : Nat)
    (directory : String) : IsQuiet (dry.emitWanted options spec asked directory).run := by
  unfold emitWanted emit
  split
  · exact isQuiet_pure _
  · rw [map_eq_pure_bind]
    refine IsQuiet.bind_run ?_ fun _ => isQuiet_pure _
    split
    · exact isQuiet_pure _
    · exact (Writer.isQuiet_emit hdry _).bind_run fun _ => isQuiet_pure _

/-- Nothing is kept, so that there is no gateway to set up either. -/
theorem improve_of_dryRun (started : Duration) (initial : Spec) (directory : String)
    (options : EnhancementOptions) (overlaid? : Option Overlaid) :
    dry.improve started initial directory options overlaid? = (do
      let normalized := normalize ((overlaid?.map Overlaid.spec).getD initial).root
      let asked := (overlaid?.map (·.generated.questions)).getD []
      let project? ← dry.emitWanted options ⟨normalized.1⟩ asked.length directory
      let ended ← (dry.clock : Logged _)
      return dry.outcome options initial overlaid? normalized project?
        ⟨ended.nanoseconds - started.nanoseconds⟩ none none none :
      ExceptT Failure Logged Enhancement) := by
  unfold improve
  simp only [keepAny_of_dryRun hdry, keepSpec_of_dryRun hdry, keepGateway_none, pure_bind]

theorem isQuiet_improve (hclock : IsQuiet dry.clock) (started : Duration) (initial : Spec)
    (directory : String) (options : EnhancementOptions) (overlaid? : Option Overlaid) :
    IsQuiet (dry.improve started initial directory options overlaid?).run := by
  rw [improve_of_dryRun hdry]
  exact (isQuiet_emitWanted hdry _ _ _ _).bind_run fun _ =>
    hclock.lift_bind_run fun _ => isQuiet_pure _

/-- A dry run leaves the files as they are, and does not try to change them. -/
theorem isQuiet_enhance (hclock : IsQuiet dry.clock) (source directory : String)
    (options : EnhancementOptions) : IsQuiet (dry.enhance source directory options).run := by
  rw [enhance_eq]
  exact hclock.lift_bind_run fun _ => (Spec.isQuiet_load source).bind_run fun _ =>
    isQuiet_improve hdry hclock _ _ _ _ _

end Quiet

/-! ### Runs that write -/

section Writes

variable (hreal : real.writer.dryRun = false)

include hreal

theorem settles_keepAny (options : EnhancementOptions) (overlaid? : Option Overlaid) :
    Settles (fun _ => True) (real.keepAny options overlaid?) := by
  cases overlaid? with
  | none => exact settles_pure trivial
  | some overlaid =>
    unfold keepAny keepOverlay
    dsimp only
    cases options.overlayPath? with
    | none => exact settles_pure trivial
    | some path =>
      dsimp only
      rw [hreal, if_neg Bool.false_ne_true]
      exact (settles_save path _).bind fun _ _ => settles_pure trivial

/-- Where a description is kept, its path ends in a name. -/
theorem settles_keepSpec (options : EnhancementOptions) (directory : String) (spec : Spec) :
    Settles (fun path? => ∀ path ∈ path?, ∃ name, Path.fileName? path = some name)
      (real.keepSpec options directory spec) := by
  unfold keepSpec
  cases real.keptSpecPath? options directory with
  | none => exact settles_pure fun _ hnone => nomatch hnone
  | some path =>
    dsimp only
    rw [hreal, if_neg Bool.false_ne_true]
    refine (settles_save path _).bind fun _ hnamed => settles_pure ?_
    rintro _ ⟨⟩
    exact hnamed

end Writes

/-- A gateway can be set up beside a description whose path ends in a name. -/
theorem settles_keepGateway {path? : Option String}
    (hnamed : ∀ path ∈ path?, ∃ name, Path.fileName? path = some name) :
    Settles (fun _ => True) (real.keepGateway path?) := by
  cases path? with
  | none =>
    rw [keepGateway_none]
    exact settles_pure trivial
  | some path =>
    unfold keepGateway
    cases real.settings.gateway? with
    | none => exact settles_pure trivial
    | some gateway =>
      obtain ⟨name, hname⟩ := hnamed path rfl
      dsimp only
      unfold GatewaySettings.save
      rw [hname, bind_assoc]
      exact (settles_attempt (succeeds_write _ _)).bind fun _ _ => settles_pure trivial

/-! ### Runs that are foretold -/

/-- The first one enhances descriptions as the second one does, but in dry runs; and the second one
writes, without a formatter.  The clocks may tell different times. -/
structure IsRehearsal (dry real : Enhancer Logged) : Prop where
  settings : dry.settings = real.settings
  assistant : dry.assistant? = real.assistant?
  thresholds : dry.thresholds = real.thresholds
  dryRun : dry.writer.dryRun = true
  writes : real.writer.dryRun = false
  formatter : real.writer.formatter? = none
  quiet : IsQuiet dry.clock
  quiet' : IsQuiet real.clock

section Stages

variable (h : IsRehearsal dry real)

include h

theorem IsRehearsal.foretells_emit (spec : Spec) (asked : Nat) (directory : String) :
    Foretells Eq (dry.emit spec asked directory) (real.emit spec asked directory) := by
  unfold emit
  rw [h.settings, h.assistant]
  cases ProjectPlan.make spec real.settings real.assistant? asked directory with
  | none => exact .throw _
  | some plan =>
    refine (Writer.foretells_emit h.dryRun h.writes h.formatter plan).bind fun _ report hreport => ?_
    exact .pure (hreport ▸ rfl)

theorem IsRehearsal.foretells_emitWanted (options : EnhancementOptions) (spec : Spec) (asked : Nat)
    (directory : String) :
    Foretells Eq (dry.emitWanted options spec asked directory)
      (real.emitWanted options spec asked directory) := by
  unfold emitWanted
  cases options.overlayOnly with
  | true => exact .pure rfl
  | false =>
    simp only [Bool.false_eq_true, if_false, map_eq_pure_bind]
    exact (h.foretells_emit spec asked directory).bind fun _ _ heq => .pure (heq ▸ rfl)

theorem IsRehearsal.foretold_outcome (options : EnhancementOptions) (initial : Spec)
    (overlaid? : Option Overlaid) (normalized : Document × NormalizationStats)
    (project? : Option (EmitReport × List Question)) (elapsed elapsed' : Duration)
    (overlayPath? specPath? gatewayPath? : Option String) :
    Enhancement.Foretold
      (dry.outcome options initial overlaid? normalized project? elapsed none none none)
      (real.outcome options initial overlaid? normalized project? elapsed' overlayPath? specPath?
        gatewayPath?) where
  normalization := rfl
  project := rfl
  questions := rfl
  counted := Metrics.finish_untimed _ elapsed elapsed'
  checks := by
    unfold outcome
    rw [h.thresholds]
    rfl
  leastAverage := congrArg Compliance.Thresholds.average h.thresholds
  sameTime := by
    unfold outcome
    rw [processingTime?_count, processingTime?_count, h.thresholds]
    rintro ⟨⟩
    rfl
  unkept := ⟨rfl, rfl, rfl⟩

theorem IsRehearsal.foretells_improve (started started' : Duration) (initial : Spec)
    (directory : String) (options : EnhancementOptions) (overlaid? : Option Overlaid) :
    Foretells Enhancement.Foretold (dry.improve started initial directory options overlaid?)
      (real.improve started' initial directory options overlaid?) := by
  rw [improve_of_dryRun h.dryRun]
  unfold improve
  -- What is kept is kept by the run that writes only.
  refine .skip (settles_keepAny h.writes options overlaid?) fun overlayPath? _ => ?_
  refine .skip (settles_keepSpec h.writes options directory _) fun specPath? hnamed => ?_
  refine (h.foretells_emitWanted options _ _ directory).bind fun project? _ hproject => ?_
  subst hproject
  -- The gateway cannot fail for a path without a name, since a file was written there.
  refine .skip (settles_keepGateway hnamed) fun gatewayPath? _ => ?_
  exact fun tree tree' _ => .ok (h.foretold_outcome options initial overlaid? _ project? _ _
    overlayPath? specPath? gatewayPath?)

end Stages

theorem overlaid_congr (hsettings : dry.settings = real.settings)
    (hassistant : dry.assistant? = real.assistant?) (spec : Spec) :
    dry.overlaid spec = real.overlaid spec := by
  unfold overlaid overlayFor
  rw [hsettings, hassistant]

/-- A run in which every file is written, and a gateway is set up; it takes no time. -/
def loggedRun : Enhancer Logged where
  settings := gatewayRun.settings
  assistant? := none
  writer := ⟨none, false⟩
  thresholds := {}
  clock := pure ⟨0⟩

/-- The same run, in which nothing is written. -/
def rehearsedRun : Enhancer Logged := { loggedRun with writer := ⟨none, true⟩ }

/-- What the two runs are asked for: the overlay is kept, and so is the description. -/
def bothKept : EnhancementOptions :=
  { overlayPath? := some "overlay.yaml", specPath? := some "kept.json" }

theorem isOk_loggedRun :
    (((loggedRun.enhance "spec.json" "out" bothKept).run.answer onePathTree).isOk
      && (loggedRun.enhance "spec.json" "out" bothKept).run.AllWritten onePathTree) = true := by
  decide +kernel

theorem isRehearsal_rehearsedRun : IsRehearsal rehearsedRun loggedRun :=
  ⟨rfl, rfl, rfl, rfl, rfl, rfl, isQuiet_pure _, isQuiet_pure _⟩

end Enhancer

end ApiTools
