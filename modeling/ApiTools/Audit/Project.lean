import ApiTools.Audit.Source
import ApiTools.Audit.Text
import ApiTools.Failure

/-!
# Finding and reading projects

The projects of a directory are the directory itself, if it has tools, or else the directories below
it that have a project's name and tools.  `AuditReport.read` audits the projects of several
directories.
-/

namespace ApiTools.Audit

/-- How many levels of directories are searched for projects. -/
def searchedLevels : Nat := 4

/-- How the name of a project's directory begins. -/
def isProjectName (name : String) : Bool := "mcp_".toList.isPrefixOf name.toList

/-- The directory of the tools of a project. -/
def toolsDirectory (project : String) : String := Path.join project "tools"

/-- Is the file one of a project's modules of tools? -/
def isToolModule (name : String) : Bool :=
  Path.extension? name == some "py" && name ≠ "__init__.py"

/-- The functions that a module defines. -/
def functionsOf (file source : String) : List ToolFunction :=
  (definitions source).map fun (name, line) => ⟨name, file, line, Path.stem file⟩

variable {m : Type → Type} [Monad m] [FileStore m]

/-- The projects below a directory, down to a number of levels.  Below a project there is no other
one. -/
def projectsBelow : (levels : Nat) → (directory : String) → ExceptT Failure m (List String)
  | 0, _ => return []
  | levels + 1, directory => do
    let entries ← FileStore.attempt (FileStore.list directory)
    let found ← entries.mapM fun (name, isDirectory) => do
      let path := Path.join directory name
      if !isDirectory then return []
      else if isProjectName name && (← (FileStore.isPresent (toolsDirectory path) : m Bool)) then
        return [path]
      else projectsBelow levels path
    return found.flatten

/-- The projects of a directory, in order. -/
def projects (root : String) : ExceptT Failure m (List String) := do
  if ← (FileStore.isPresent (toolsDirectory root) : m Bool) then return [root]
  else
    let found ← projectsBelow searchedLevels root
    return found.mergeSort fun a b => Text.notAfter (Path.parts a) (Path.parts b)

/-- The names that a server registers, and what there is to say if it cannot be read. -/
def readServer (file : String) : m (List String × List String) := do
  match ← FileStore.read file with
  | .ok source => return (registrations source, [])
  | .error _ => return ([], ["Server file not found: " ++ file])

/-- Audits a project. -/
def auditProject (limits : NameLimits) (directory : String) : ExceptT Failure m ProjectAudit := do
  let project := (Path.fileName? directory).getD directory
  let tools := toolsDirectory directory
  if !(← (FileStore.isPresent tools : m Bool)) then return .withoutTools project tools
  let entries ← FileStore.attempt (FileStore.list tools)
  let names := Text.sorted ((entries.map Prod.fst).filter isToolModule)
  let functions ← names.mapM fun name => do
    let file := Path.join tools name
    return functionsOf file (← FileStore.attempt (FileStore.read file))
  let (registered, warnings) ← (readServer (Path.join directory "server.py") : m _)
  return .make limits project warnings functions.flatten registered

/-- Audits the projects of a directory, of which there must be one. -/
def auditRoot (limits : NameLimits) (root : String) : ExceptT Failure m (List ProjectAudit) := do
  let projects ← projects root
  if projects.isEmpty then throw (.noProjects root)
  else projects.mapM (auditProject limits)

/-- Audits the projects of several directories. -/
def auditAll (limits : NameLimits) (roots : List String) : ExceptT Failure m AuditReport := do
  return ⟨(← roots.mapM (auditRoot limits)).flatten⟩

end ApiTools.Audit
