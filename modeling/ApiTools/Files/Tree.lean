import ApiTools.Files.Path

/-!
# Trees of files

`FileTree` holds directories and files below one root.  A place is the list of the names that lead
to an entry.  The operations refuse what a file system refuses: each directory on the way must be
there, a directory is neither read nor written, and a file is put in the place of another one only.
-/

namespace ApiTools

/-- Why an operation on files fails. -/
inductive FileError where
  | notFound
  | exists
  | notADirectory
  | isADirectory
  /-- Anything else, with its wording. -/
  | other (text : String)
  deriving DecidableEq, Repr

/-- The wording of the error. -/
def FileError.message : FileError → String
  | notFound => "No such file or directory (os error 2)"
  | .exists => "File exists (os error 17)"
  | notADirectory => "Not a directory (os error 20)"
  | isADirectory => "Is a directory (os error 21)"
  | other text => text

/-- What stands at a place. -/
inductive FileEntry where
  | directory
  | file (content : String)
  deriving DecidableEq, Repr

/-- The names that lead to an entry from the root. -/
abbrev Place := List String

/-- Directories and files below a root, which is a directory itself. -/
structure FileTree where
  entries : List (Place × FileEntry)
  deriving Repr

namespace FileTree

/-- The tree in which there is nothing but the root. -/
def empty : FileTree := ⟨[]⟩

/-- What stands at the place. -/
def entry? (tree : FileTree) (place : Place) : Option FileEntry :=
  if place = [] then some .directory else tree.entries.lookup place

/-- The tree with the entry at a place set. -/
def set (tree : FileTree) (place : Place) (entry : FileEntry) : FileTree :=
  ⟨(tree.entries.filter fun e => e.1 ≠ place) ++ [(place, entry)]⟩

/-- The tree without the entry at a place. -/
def erase (tree : FileTree) (place : Place) : FileTree :=
  ⟨tree.entries.filter fun e => e.1 ≠ place⟩

/-- The place one name further. -/
def step (place : Place) (name : String) : Place :=
  if name = ".." then place.dropLast else place ++ [name]

/-- The place that the names lead to from a place.  What they pass through must be directories. -/
def walk (tree : FileTree) (place : Place) : List String → Except FileError Place
  | [] => .ok place
  | name :: rest =>
    match tree.entry? place with
    | some .directory => walk tree (step place name) rest
    | some (.file _) => .error .notADirectory
    | none => .error .notFound

/-- The place of a path.  One that ends in a slash is that of a directory, if of anything. -/
def locate (tree : FileTree) (path : String) : Except FileError Place :=
  if path.isEmpty then .error .notFound
  else
    match tree.walk [] (Path.parts path) with
    | .ok place =>
      match tree.entry? place with
      | some (.file _) => if Path.endsInSlash path then .error .notADirectory else .ok place
      | _ => .ok place
    | .error e => .error e

/-- What stands at the path. -/
def find? (tree : FileTree) (path : String) : Option FileEntry :=
  match tree.locate path with
  | .ok place => tree.entry? place
  | .error _ => none

/-- The content of a file. -/
def read (tree : FileTree) (path : String) : Except FileError String := do
  match tree.entry? (← tree.locate path) with
  | some (.file content) => return content
  | some .directory => throw .isADirectory
  | none => throw .notFound

/-- The tree in which a file has the given content.  The file need not have been there, but its
directory must. -/
def write (tree : FileTree) (path content : String) : Except FileError FileTree := do
  let place ← tree.locate path
  match tree.entry? place with
  | some .directory => throw .isADirectory
  | some (.file _) => return tree.set place (.file content)
  | none => if Path.endsInSlash path then throw .isADirectory else
      return tree.set place (.file content)

/-- The tree with directories where the names lead from a place. -/
def makeDirectories (tree : FileTree) (place : Place) : List String → Except FileError FileTree
  | [] => .ok tree
  | name :: rest =>
    let next := step place name
    match tree.entry? next with
    | some .directory => makeDirectories tree next rest
    | some (.file _) => .error (if rest.isEmpty then .exists else .notADirectory)
    | none => makeDirectories (tree.set next .directory) next rest

/-- The tree in which there is a directory at the path, and at each path on the way. -/
def createDirectories (tree : FileTree) (path : String) : Except FileError FileTree :=
  tree.makeDirectories [] (Path.parts path)

/-- The tree without a file. -/
def remove (tree : FileTree) (path : String) : Except FileError FileTree := do
  let place ← tree.locate path
  match tree.entry? place with
  | some .directory => throw .isADirectory
  | some (.file _) => return tree.erase place
  | none => throw .notFound

/-- The tree in which a file has gone to another path, in the place of what file was there. -/
def rename (tree : FileTree) (source target : String) : Except FileError FileTree := do
  let content ← tree.read source
  let source ← tree.locate source
  let place ← tree.locate target
  match tree.entry? place with
  | some .directory => throw .isADirectory
  | some (.file _) => return (tree.erase source).set place (.file content)
  | none =>
    if Path.endsInSlash target then throw .notADirectory
    else return (tree.erase source).set place (.file content)

/-- The names in a directory, each with whether it is that of a directory. -/
def children (tree : FileTree) (place : Place) : List (String × Bool) :=
  tree.entries.filterMap fun (other, entry) =>
    match other.getLast? with
    | some name => if other.dropLast = place then some (name, entry = .directory) else none
    | none => none

/-- The names in the directory at the path. -/
def list (tree : FileTree) (path : String) : Except FileError (List (String × Bool)) := do
  let place ← tree.locate path
  match tree.entry? place with
  | some .directory => return tree.children place
  | some (.file _) => throw .notADirectory
  | none => throw .notFound

/-- The files with their paths. -/
def files (tree : FileTree) : List (String × String) :=
  tree.entries.filterMap fun (place, entry) =>
    match entry with
    | .file content => some (Text.join "/" place, content)
    | .directory => none

end FileTree

end ApiTools
