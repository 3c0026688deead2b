/-!
# Cutting texts to a length

Lengths count characters.
-/

namespace ApiTools.Text

/-- The first `max` characters. -/
def cut (s : String) (max : Nat) : String := String.ofList (s.toList.take max)

/-- The text if it has at most `max` characters, and otherwise a beginning of it followed by three
points.  The beginning is short enough to leave room for the points whenever `max` does. -/
def cutMarked (s : String) (max : Nat) : String :=
  if s.toList.length ≤ max then s
  else String.ofList (s.toList.take (max - 3) ++ ['.', '.', '.'])

/-- Does `part` occur in the characters? -/
def occursIn (part : List Char) : List Char → Bool
  | [] => part.isEmpty
  | c :: rest => part.isPrefixOf (c :: rest) || occursIn part rest

/-- Does `part` occur in the text? -/
def contains (s part : String) : Bool := occursIn part.toList s.toList

/-- Does one of the given parts occur in the text? -/
def containsAny (s : String) (parts : List String) : Bool := parts.any (contains s)

/-- The pieces of the characters between occurrences of the separator, where `piece` holds the one
begun, in reverse. -/
def splitFrom (separator : Char) (piece : List Char) : List Char → List (List Char)
  | [] => [piece.reverse]
  | c :: rest =>
    if c = separator then piece.reverse :: splitFrom separator [] rest
    else splitFrom separator (c :: piece) rest

/-- The pieces of the characters between occurrences of the separator. -/
def splitChars (separator : Char) (cs : List Char) : List (List Char) := splitFrom separator [] cs

/-- The pieces of the text between occurrences of the separator. -/
def split (s : String) (separator : Char) : List String :=
  (splitChars separator s.toList).map String.ofList

/-- The texts in order, with the separator between neighbours. -/
def join (separator : String) (parts : List String) : String := String.intercalate separator parts

/-- The characters with `new` for each occurrence of `old`, read from the left; `skip` characters
belong to an occurrence already replaced. -/
def replaceFrom (old new : List Char) : (skip : Nat) → List Char → List Char
  | _, [] => []
  | skip + 1, _ :: rest => replaceFrom old new skip rest
  | 0, c :: rest =>
    if old.isPrefixOf (c :: rest) then new ++ replaceFrom old new (old.length - 1) rest
    else c :: replaceFrom old new 0 rest

/-- The text with `new` for each occurrence of the nonempty text `old`, read from the left. -/
def replace (s old new : String) : String :=
  String.ofList (replaceFrom old.toList new.toList 0 s.toList)

end ApiTools.Text
