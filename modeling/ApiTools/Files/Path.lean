import ApiTools.Text.Cut

/-!
# Paths

A path is a text whose parts are separated by slashes.  Slashes and single points at its end say
nothing about its last part; the part of a path before the last one is taken from the text as it was
written.
-/

namespace ApiTools.Path

/-- The parts of a path in order, without empty ones and without single points. -/
def parts (path : String) : List String :=
  (Text.split path '/').filter fun part => !part.isEmpty && part ≠ "."

/-- Does the path begin at the root? -/
def isAbsolute (path : String) : Bool := path.toList.head? == some '/'

/-- Does the path end in a slash? -/
def endsInSlash (path : String) : Bool := path.toList.getLast? == some '/'

/-- The path `path` below the directory `base`. -/
def join (base path : String) : String :=
  if isAbsolute path || base.isEmpty then path
  else if endsInSlash base then base ++ path
  else base ++ "/" ++ path

/-- The reversed characters of a path without the slashes and single points at its end. -/
def dropTail : List Char → List Char
  | '/' :: rest => dropTail rest
  | '.' :: '/' :: rest => dropTail rest
  | cs => cs

/-- The last part of the path, where it is a name. -/
def fileName? (path : String) : Option String :=
  let name := ((dropTail path.toList.reverse).takeWhile (· ≠ '/')).reverse
  if name = [] || name = ['.'] || name = ['.', '.'] then none else some (String.ofList name)

/-- The path before its last part. -/
def parent? (path : String) : Option String :=
  match dropTail path.toList.reverse with
  | [] => none
  | cs =>
    let rest := dropTail (cs.dropWhile (· ≠ '/'))
    some (if rest.isEmpty && isAbsolute path then "/" else String.ofList rest.reverse)

/-- The path with another last part. -/
def withFileName (path name : String) : String :=
  match fileName? path with
  | some _ => join ((parent? path).getD "") name
  | none => join path name

/-- The name of a file before and after its last point; a point at the beginning does not count. -/
def splitName (name : String) : String × Option String :=
  let cs := name.toList.reverse
  let ending := cs.takeWhile (· ≠ '.')
  match cs.dropWhile (· ≠ '.') with
  | _ :: c :: before => (String.ofList (c :: before).reverse, some (String.ofList ending.reverse))
  | _ => (name, none)

/-- The ending of the name of a file. -/
def extension? (path : String) : Option String :=
  (fileName? path).bind fun name => (splitName name).2

/-- The name of a file without its ending. -/
def stem (path : String) : String := ((fileName? path).map fun name => (splitName name).1).getD ""

end ApiTools.Path
