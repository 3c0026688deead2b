import ApiTools.Number.Decimal
import ApiTools.Text.Cut
import ApiTools.Text.Order

/-!
# Auditing the tools of a project

The names of a project's tool functions must be distinct, not too long and registered with the
server; and there are words for which they should use an abbreviation.  `ProjectAudit.make` finds
what breaks these rules.
-/

namespace ApiTools

/-- A function of a project, as it was found. -/
structure ToolFunction where
  name : String
  /-- The path of the file that defines it. -/
  file : String
  /-- The number of the line, counted from one. -/
  line : Nat
  /-- The name of the module. -/
  module : String
  deriving DecidableEq, Repr

/-- The number of characters of the name. -/
def ToolFunction.length (function : ToolFunction) : Nat := function.name.toList.length

/-- How long the names of tools may be. -/
structure NameLimits where
  /-- A longer name gets a warning. -/
  target : Nat := 30
  /-- A longer name is an error. -/
  maximum : Nat := 64
  deriving DecidableEq, Repr

/-- What was found in a project. -/
structure ProjectAudit where
  project : String
  functions : List ToolFunction := []
  errors : List String := []
  warnings : List String := []
  /-- The names that are defined more than once, with the files that define them. -/
  duplicates : List (String × List String) := []
  tooLong : List ToolFunction := []
  unregistered : List ToolFunction := []
  /-- The functions whose names have an abbreviation. -/
  unabbreviated : List ToolFunction := []

namespace Audit

/-- Words, each with the abbreviation that names should use. -/
def abbreviations : List (String × String) :=
  [("workflow", "wf"), ("template", "tpl"), ("service", "svc"), ("cluster", "clust"),
    ("archived", "arch"), ("namespace", "ns"), ("artifact", "art"), ("event_source", "evt_src"),
    ("cron_workflow", "cron_wf")]

/-- The first word of a name that should be abbreviated, with its abbreviation.  A name that holds
the abbreviation too is left alone. -/
def abbreviation? (name : String) : Option (String × String) :=
  abbreviations.find? fun (word, short) => Text.contains name word && !Text.contains name short

/-- The files of the functions of the given name. -/
def filesOf (name : String) (functions : List ToolFunction) : List String :=
  (functions.filter (·.name == name)).map ToolFunction.file

/-- The names that more than one function has, in order, with the files of these functions. -/
def repeatedNames (functions : List ToolFunction) : List (String × List String) :=
  ((Text.sortedOnce (functions.map ToolFunction.name)).map fun name =>
    (name, filesOf name functions)).filter fun (_, files) => 1 < files.length

/-- The warning about the length of a name. -/
def lengthWarning (limits : NameLimits) (function : ToolFunction) : String :=
  "Function '" ++ function.name ++ "' (" ++ natText function.length
    ++ " chars) exceeds target length of " ++ natText limits.target

/-- One error about a number of things, if there are any. -/
def countError {α : Type} (found : List α) (text : String) : List String :=
  if found.isEmpty then [] else ["Found " ++ natText found.length ++ text]

/-- The names and files of duplicates. -/
def duplicatesText (duplicates : List (String × List String)) : String :=
  Text.join "; " (duplicates.map fun (name, files) =>
    "'" ++ name ++ "' in " ++ Text.join ", " files)

end Audit

namespace ProjectAudit

open Audit

/-- What there is to say about the functions of a project, given the names that are registered and
the warnings there are already. -/
def make (limits : NameLimits) (project : String) (warnings : List String)
    (functions : List ToolFunction) (registered : List String) : ProjectAudit :=
  let repeated := repeatedNames functions
  let tooLong := functions.filter fun f => limits.maximum < f.length
  let unregistered := functions.filter fun f => !registered.contains f.name
  let unabbreviated := functions.filter fun f => (abbreviation? f.name).isSome
  { project, functions, tooLong, unregistered, unabbreviated
    duplicates := repeated
    errors :=
      countError repeated (" duplicate function names: " ++ duplicatesText repeated)
        ++ countError tooLong " functions exceeding length limits"
        ++ countError unregistered " unregistered functions"
    warnings :=
      warnings
        ++ (functions.filter fun f => f.length ≤ limits.maximum && limits.target < f.length).map
          (lengthWarning limits)
        ++ countError unabbreviated " functions with naming convention issues" }

/-- The audit of a project that has no tools. -/
def withoutTools (project directory : String) : ProjectAudit :=
  { project, errors := ["Tools directory not found: " ++ directory] }

/-- Is there no error? -/
def passed (audit : ProjectAudit) : Bool := audit.errors.isEmpty

end ProjectAudit

end ApiTools
