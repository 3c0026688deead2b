import ApiTools.Files.Store
import ApiTools.Overlay.Text
import ApiTools.Prompts
import ApiTools.Spec.Read
import ApiTools.Template.Catalog

/-!
# Failures

What can go wrong with files, with what they hold and with what is made of them, in words.
-/

namespace ApiTools

/-- Why a formatter does not accept a file. -/
inductive FormatError where
  | notInstalled (program : String)
  /-- The program ended with a status, and wrote something. -/
  | rejected (program status path output : String)
  deriving DecidableEq, Repr

/-- The error in words. -/
def FormatError.message : FormatError → String
  | notInstalled program => "Formatter '" ++ program ++ "' is not installed"
  | rejected program status path output =>
    program ++ " failed with status " ++ status ++ " on " ++ path ++ "\n" ++ output

/-- Why something could not be done. -/
inductive Failure where
  /-- An operation on files failed. -/
  | file (cause : FileError)
  /-- A file of settings holds no settings. -/
  | malformedSettings
  | prompts (cause : PromptsError)
  /-- A description is not in a file but on a network. -/
  | remoteSpec (url : String)
  | unreadableSpec (path : String) (cause : FileError)
  | malformedSpec (path : String) (cause : SpecTextError)
  | malformedOverlay (path : String)
  | template (cause : TemplateError)
  | formatter (cause : FormatError)
  /-- An essential file of a project could not be made. -/
  | artifact (path : String) (cause : Failure)
  /-- A path for a description does not end in a name. -/
  | unnamedSpec (path : String)
  /-- There are no projects below a directory. -/
  | noProjects (root : String)
  /-- The schema of a request body reaches itself. -/
  | endlessBody
  deriving Repr

/-- The failure in words. -/
def Failure.message : Failure → String
  | file cause => "I/O error: " ++ cause.message
  | malformedSettings => "Invalid YAML"
  | prompts cause => cause.message
  | remoteSpec url => "OpenAPI error: Failed to fetch OpenAPI spec " ++ url ++ ": not connected"
  | unreadableSpec path cause =>
    "OpenAPI error: Failed to read OpenAPI spec " ++ path ++ ": " ++ cause.message
  | malformedSpec path cause =>
    "OpenAPI error: Failed to parse OpenAPI spec " ++ path ++ ": " ++ cause.message
  | malformedOverlay path => "Invalid overlay: Failed to parse overlay " ++ path ++ ": Invalid YAML"
  | template cause => cause.message
  | formatter cause => "Template error: " ++ cause.message
  | artifact path cause => "Template error: " ++ path ++ ": " ++ cause.message
  | unnamedSpec path => "Configuration error: Invalid enhanced spec path: " ++ path
  | noProjects root => "Configuration error: No generated MCP projects found under " ++ root
  | endlessBody => "OpenAPI error: the schema of a request body contains itself"

/-- The answer of a store; an operation that fails ends everything. -/
def FileStore.attempt {m : Type → Type} {α : Type} [Monad m] (action : m (Except FileError α)) :
    ExceptT Failure m α := do
  match ← (action : m _) with
  | .ok a => return a
  | .error e => throw (.file e)

end ApiTools
