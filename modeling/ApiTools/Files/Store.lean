import ApiTools.Files.Tree

/-!
# Stores of files

What is done with files is written once for every store: for a tree that is held as a value, and for
the files of a machine.  An atomic write goes to a file beside the target and takes its place only
when it is complete.
-/

namespace ApiTools

/-- Actions on files that may fail. -/
class FileStore (m : Type → Type) where
  /-- The content of a file. -/
  read : String → m (Except FileError String)
  /-- Gives a file its content; its directory must be there. -/
  write : (path content : String) → m (Except FileError Unit)
  /-- Makes a directory, and each one on the way to it that is missing. -/
  createDirectories : String → m (Except FileError Unit)
  /-- Moves a file, in the place of what file is there. -/
  rename : (source target : String) → m (Except FileError Unit)
  /-- Takes a file away. -/
  remove : String → m (Except FileError Unit)
  /-- Is there anything at the path? -/
  isPresent : String → m Bool
  /-- The names in a directory, each with whether it is that of a directory. -/
  list : String → m (Except FileError (List (String × Bool)))

namespace FileStore

/-- Goes on with the tree that results, if one does. -/
def update (result : FileTree → Except FileError FileTree) :
    StateM FileTree (Except FileError Unit) :=
  fun tree =>
    match result tree with
    | .ok tree => (.ok (), tree)
    | .error e => (.error e, tree)

/-- The files of a tree. -/
instance : FileStore (StateM FileTree) where
  read path := fun tree => (tree.read path, tree)
  write path content := update (·.write path content)
  createDirectories path := update (·.createDirectories path)
  rename source target := update (·.rename source target)
  remove path := update (·.remove path)
  isPresent path := fun tree => ((tree.find? path).isSome, tree)
  list path := fun tree => (tree.list path, tree)

variable {m : Type → Type} [Monad m] [FileStore m]

/-- The path beside a path at which a file is put together. -/
def stagingPath (path : String) : String :=
  Path.withFileName path ("." ++ (Path.fileName? path).getD "" ++ ".tmp")

/-- Gives a file its content in one step: it is written beside the file and then moved.  What was
written beside it is taken away when either fails. -/
def writeAtomic (path content : String) : m (Except FileError Unit) := do
  let staging := stagingPath path
  let result ← match ← write (m := m) staging content with
    | .ok () => rename staging path
    | .error e => pure (.error e)
  match result with
  | .ok () => return .ok ()
  | .error e =>
    let _ ← remove (m := m) staging
    return .error e

/-- Makes the directory of a file, where its path names one. -/
def createParent (path : String) : m (Except FileError Unit) :=
  match Path.parent? path with
  | some parent => if parent.isEmpty then pure (.ok ()) else createDirectories parent
  | none => pure (.ok ())

end FileStore

end ApiTools
