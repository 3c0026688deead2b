import ApiTools.Failure
import ApiTools.Number.Total
import ApiTools.Project.Artifact

/-!
# Writing a project

The files of a project are filled in, written one after another and given to a formatter.  A file
that the formatter does not accept stays as it is and is reported; an essential file that cannot be
written ends everything.
-/

namespace ApiTools

/-- A program that brings a file into its format. -/
structure Formatter (m : Type → Type) where
  run : (path : String) → m (Except FormatError Unit)

/-- How the files of a project are written. -/
structure Writer (m : Type → Type) where
  /-- The formatter for source files, where there is one. -/
  formatter? : Option (Formatter m)
  /-- Is nothing written? -/
  dryRun : Bool

/-- What became of a file. -/
inductive Rendered where
  | written
  /-- The file would be written. -/
  | planned
  /-- The file was written, but the formatter did not accept it. -/
  | unformatted (cause : FormatError)

/-- What became of a project. -/
structure EmitReport where
  package : String
  packageDirectory : String
  /-- The files that were written, or would be. -/
  files : List String
  /-- The files that failed, each with the reason. -/
  failed : List (String × String)
  registrations : List Registration
  /-- The number of calls of a language model that count. -/
  calls : Nat
  inputTokens : Nat
  outputTokens : Nat

namespace EmitReport

/-- The number of tools. -/
def toolCount (report : EmitReport) : Nat :=
  total (report.registrations.map fun registration => registration.functions.length)

/-- The report with what became of one more file. -/
def record (report : EmitReport) (path : String) : Rendered → EmitReport
  | .unformatted cause =>
    { report with
      files := report.files ++ [path]
      failed :=
        if Path.extension? path = some "py" then
          report.failed ++ [(path, (Failure.formatter cause).message)]
        else report.failed }
  | _ => { report with files := report.files ++ [path] }

/-- The report of a project of which nothing has been written yet. -/
def start (plan : ProjectPlan) : EmitReport where
  package := plan.names.package
  packageDirectory := plan.packageDirectory
  files := []
  failed := []
  registrations := plan.registrations
  calls := plan.texts.usages.length
  inputTokens := total (plan.texts.usages.map TokenUsage.input)
  outputTokens := total (plan.texts.usages.map TokenUsage.output)

end EmitReport

namespace Formatter

/-- Is the file one that formatters are for? -/
def supports (path : String) : Bool :=
  match Path.extension? path with
  | some ending => ending = "py" || ending = "pyi"
  | none => false

end Formatter

namespace Writer

variable {m : Type → Type} [Monad m] [FileStore m]

/-- Gives a written file to the formatter. -/
def format (writer : Writer m) (path : String) : m Rendered :=
  match writer.formatter? with
  | none => pure .written
  | some formatter => do
    if !Formatter.supports path then return .written
    match ← formatter.run path with
    | .ok () => return .written
    | .error cause => return .unformatted cause

/-- Writes a file. -/
def write (writer : Writer m) (path content : String) : ExceptT Failure m Rendered := do
  match ← (FileStore.createDirectories ((Path.parent? path).getD "") : m _) with
  | .error e => throw (.file e)
  | .ok () =>
    match ← (FileStore.writeAtomic path content : m _) with
    | .error e => throw (.file e)
    | .ok () => writer.format path

/-- Fills in a template and writes the file. -/
def render (writer : Writer m) (path : String) (template : TemplateName) (values : Document) :
    ExceptT Failure m Rendered :=
  match Template.renderNamed template.text values with
  | .error e => throw (.template e)
  | .ok content => if writer.dryRun then return .planned else writer.write path content

/-- Writes one file of a project. -/
def emitArtifact (writer : Writer m) (report : EmitReport) (artifact : Artifact) :
    ExceptT Failure m EmitReport := do
  try
    let rendered ← writer.render artifact.path artifact.template (.object artifact.values)
    return report.record artifact.path rendered
  catch cause =>
    if artifact.isEssential then throw (.artifact artifact.path cause)
    else return { report with failed := report.failed ++ [(artifact.path, cause.message)] }

/-- Writes the files of a project. -/
def emit (writer : Writer m) (plan : ProjectPlan) : ExceptT Failure m EmitReport :=
  plan.artifacts.foldlM writer.emitArtifact (.start plan)

end Writer

end ApiTools
