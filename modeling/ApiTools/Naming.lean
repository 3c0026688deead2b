import ApiTools.Text.Blank
import ApiTools.Text.Case
import ApiTools.Text.Cut

/-!
# Names

How operation identifiers, API paths, titles and schema names become names of functions, modules
and classes.
-/

namespace ApiTools.Naming

open Text

/-- Every run of underscores becomes one. -/
def mergeUnderscores : List Char → List Char
  | [] => []
  | [c] => [c]
  | c :: d :: rest =>
    if c = '_' && d = '_' then mergeUnderscores (d :: rest) else c :: mergeUnderscores (d :: rest)

/-- The characters without the underscores at either end. -/
def trimUnderscores (cs : List Char) : List Char := trimBy (· == '_') cs

/-- The snake form of the characters to come.  `last` is the last character written, and `lower`
says whether the last letter or digit read was lowercase: an uppercase letter after a lowercase one
begins a word.  A hyphen, an underscore or a space ends one; any other character that is neither a
letter nor a digit is dropped. -/
def snakeFrom : (last : Option Char) → (lower : Bool) → List Char → List Char
  | _, _, [] => []
  | last, lower, c :: rest =>
    if isUpper c then
      (if lower then ['_'] else []) ++ lowerChar c ++ snakeFrom (lowerChar c).getLast? false rest
    else if isAlphanumeric c then c :: snakeFrom (some c) (isLower c) rest
    else if c = '-' || c = '_' || c = ' ' then
      if last.isNone || last = some '_' then snakeFrom last false rest
      else '_' :: snakeFrom (some '_') false rest
    else snakeFrom last lower rest

/-- The words of the characters in lowercase, joined by underscores. -/
def snakeChars (cs : List Char) : List Char :=
  trimUnderscores (mergeUnderscores (snakeFrom none false cs))

/-- The words of the text in lowercase, joined by underscores. -/
def snakeCase (s : String) : String := String.ofList (snakeChars s.toList)

/-- The words of the text, each with a capital, without separators. -/
def upperCamel (s : String) : String :=
  join "" (((split (snakeCase s) '_').filter (· ≠ "")).map capitalize)

/-- Where the reading of capitalised words stands: outside of one, at the capital of one, or among
the small letters of one. -/
inductive WordPart where
  | outside
  | capital
  | inside
  deriving DecidableEq

/-- Do the characters begin with a letter `A` to `Z` and a letter `a` to `z`? -/
def startsCapitalised : List Char → Bool
  | u :: l :: _ => isAsciiUpper u && isAsciiLower l
  | _ => false

/-- An underscore before each capitalised word (a letter `A` to `Z` and at least one letter `a` to
`z`) that follows a character other than a line feed outside of such words. -/
def splitWords : WordPart → List Char → List Char
  | _, [] => []
  | .capital, c :: rest => c :: splitWords .inside rest
  | part, c :: rest =>
    if part = .inside && isAsciiLower c then c :: splitWords .inside rest
    else if c ≠ '\n' && startsCapitalised rest then c :: '_' :: splitWords .capital rest
    else c :: splitWords .outside rest

/-- An underscore between a letter `a` to `z` or a digit and a letter `A` to `Z`. -/
def splitHumps : List Char → List Char
  | c :: d :: rest =>
    if (isAsciiLower c || isAsciiDigit c) && isAsciiUpper d then c :: '_' :: splitHumps (d :: rest)
    else c :: splitHumps (d :: rest)
  | rest => rest

/-- The letters with an underscore between neighbours. -/
def spellOut (cs : List Char) : List Char := (cs.map asciiLower).intersperse '_'

/-- The words of a name in camel case, in lowercase and joined by underscores, where an acronym is
a word of its own.  A name of capitals `A` to `Z` alone is spelled letter by letter. -/
def camelWords (cs : List Char) : List Char :=
  if !cs.isEmpty && cs.all isAsciiUpper then spellOut cs
  else mergeUnderscores (lowerChars (splitHumps (splitWords .outside cs)))

/-- The words of a name in camel case, in lowercase and joined by underscores. -/
def camelToSnake (s : String) : String := String.ofList (camelWords s.toList)

/-- The character itself where it may stand in an identifier, and otherwise an underscore. -/
def identifierChar (c : Char) : Char := if isIdentifierChar c then c else '_'

/-- The text with an underscore for every character that may not stand in an identifier. -/
def identifier (s : String) : String := String.ofList (s.toList.map identifierChar)

/-- Is the character an opening or a closing brace? -/
def isBrace (c : Char) : Bool := c == '\x7b' || c == '\x7d'

/-- The name of the function for an operation identifier. -/
def functionName (operationId : String) : String :=
  let kept := (operationId.toList.filter (!isBrace ·)).map identifierChar
  match trimUnderscores (camelWords kept) with
  | [] => "operation"
  | c :: rest =>
    String.ofList (if isAsciiDigit c then "op_".toList ++ c :: rest else c :: rest)

/-- The name of the module for an API path: without leading slashes and braces, in lowercase, with
an underscore for each slash, hyphen and point.  The root path is called `root`. -/
def moduleName (path : String) : String :=
  let kept := (path.toList.dropWhile (· == '/')).filter (!isBrace ·)
  match lowerChars (kept.map fun c => if c = '/' || c = '-' || c = '.' then '_' else c) with
  | [] => "root"
  | name => String.ofList name

end ApiTools.Naming
