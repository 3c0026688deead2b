import ApiTools.Command.Run

/-!
# The command line

The files of the machine are a store, and what a command prints goes to the standard output.
-/

namespace ApiTools

/-- The error of the machine as an error of a store. -/
def FileError.ofMachine : IO.Error → FileError
  | .noFileOrDirectory .. => .notFound
  | .alreadyExists .. => .exists
  | .inappropriateType _ 20 _ => .notADirectory
  | .inappropriateType _ 21 _ => .isADirectory
  | error => .other (toString error)

/-- The answer of an action on the machine's files. -/
def answerOf {α : Type} (action : IO α) : IO (Except FileError α) := do
  try
    return .ok (← action)
  catch error =>
    return .error (.ofMachine error)

/-- The path as seen from the working directory. -/
def entryAt (path : String) : IO.FS.DirEntry := ⟨".", path⟩

/-- The names in a directory of the machine, each with whether it is that of a directory. -/
def namesIn (path : String) : IO (List (String × Bool)) := do
  let entries ← (entryAt path).path.readDir
  entries.toList.mapM fun entry => return (entry.fileName, ← entry.path.isDir)

/-- The files of the machine. -/
instance : FileStore IO where
  read path := answerOf (IO.FS.readFile path)
  write path content := answerOf (IO.FS.writeFile path content)
  createDirectories path := answerOf (IO.FS.createDirAll path)
  rename source target := answerOf (IO.FS.rename source target)
  remove path := answerOf (IO.FS.removeFile path)
  isPresent path := (entryAt path).path.pathExists
  list path := answerOf (namesIn path)

/-- Commands are carried out without a language model, and no formatter is installed. -/
def machineEnvironment : CommandEnvironment IO where
  formatter := .missing "ruff"
  model? := none
  clock := return ⟨← IO.monoNanosNow⟩

end ApiTools

/-- Carries out the command that the words give. -/
def main (words : List String) : IO UInt32 := do
  let result ← ApiTools.Command.runWords ApiTools.machineEnvironment words
  IO.print result.output
  return result.code.toUInt32
