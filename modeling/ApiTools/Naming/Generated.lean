import ApiTools.Naming

/-!
# Names in a generated project

Packages and modules are named by stems: runs of small letters and digits joined by single
underscores, with a letter first.
-/

namespace ApiTools.Naming

open Text

/-- The nonempty parts of the text between underscores, joined by single ones. -/
def joinParts (s : String) : String := join "_" ((split s '_').filter (!·.isEmpty))

/-- The stem that is made of a name; `lead` stands for an empty one, and before one that begins with
a digit. -/
def stem (raw lead : String) : String :=
  let joined := lowercase (joinParts (identifier raw))
  match joined.toList with
  | [] => lead
  | c :: _ => if isAsciiDigit c then lead ++ "_" ++ joined else joined

/-- The name of the class for a schema. -/
def className (schemaName : String) : String :=
  let name := identifier (upperCamel schemaName)
  match name.toList with
  | [] => "Model"
  | c :: _ => if isAsciiDigit c then "Model" ++ name else name

/-- The words that are no names in the generated language. -/
def reservedWords : List String :=
  ["False", "None", "True", "and", "as", "assert", "async", "await", "break", "class", "continue",
    "def", "del", "elif", "else", "except", "finally", "for", "from", "global", "if", "import",
    "in", "is", "lambda", "nonlocal", "not", "or", "pass", "raise", "return", "try", "while",
    "with", "yield"]

/-- The name of the field for a property. -/
def fieldName (property : String) : String :=
  let name := identifier property
  if reservedWords.contains name then name ++ "_"
  else
    match name.toList with
    | [] => "field_"
    | c :: _ => if isAsciiDigit c then "field_" ++ name else name

end ApiTools.Naming
