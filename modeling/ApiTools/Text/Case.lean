import ApiTools.Text.Table.Alphabetic
import ApiTools.Text.Table.CaseIgnorable
import ApiTools.Text.Table.CaseMap
import ApiTools.Text.Table.Lowercase
import ApiTools.Text.Table.Numeric
import ApiTools.Text.Table.Uppercase

/-!
# Letters and their case

Character classes and case maps of the Unicode character database.  ASCII characters are decided
without a table, so that statements about ASCII text need none.  The capital sigma becomes the
final form of the small one at the end of a word (`lowercase`); a single character on its own does
not (`lowerChar`).
-/

namespace ApiTools.Text

/-- Is the character an ASCII one? -/
def isAscii (c : Char) : Bool := c.toNat < 128

/-- Is the character a letter `A` to `Z`? -/
def isAsciiUpper (c : Char) : Bool := 65 ≤ c.toNat && c.toNat ≤ 90

/-- Is the character a letter `a` to `z`? -/
def isAsciiLower (c : Char) : Bool := 97 ≤ c.toNat && c.toNat ≤ 122

/-- Is the character a digit `0` to `9`? -/
def isAsciiDigit (c : Char) : Bool := 48 ≤ c.toNat && c.toNat ≤ 57

/-- Is the character an ASCII letter or digit? -/
def isAsciiAlphanumeric (c : Char) : Bool := isAsciiUpper c || isAsciiLower c || isAsciiDigit c

/-- May the character stand in an identifier of ASCII letters, digits and underscores? -/
def isIdentifierChar (c : Char) : Bool := isAsciiAlphanumeric c || c == '_'

/-- The small form of a letter `A` to `Z`; every other character is left alone. -/
def asciiLower (c : Char) : Char := if isAsciiUpper c then Char.ofNat (c.toNat + 32) else c

/-- The capital form of a letter `a` to `z`; every other character is left alone. -/
def asciiUpper (c : Char) : Char := if isAsciiLower c then Char.ofNat (c.toNat - 32) else c

/-- Is the character uppercase? -/
def isUpper (c : Char) : Bool :=
  if isAscii c then isAsciiUpper c else Table.inRuns Table.uppercase c.toNat

/-- Is the character lowercase? -/
def isLower (c : Char) : Bool :=
  if isAscii c then isAsciiLower c else Table.inRuns Table.lowercase c.toNat

/-- Is the character alphabetic? -/
def isAlphabetic (c : Char) : Bool :=
  if isAscii c then isAsciiUpper c || isAsciiLower c else Table.inRuns Table.alphabetic c.toNat

/-- Is the character a digit or another number? -/
def isNumeric (c : Char) : Bool :=
  if isAscii c then isAsciiDigit c else Table.inRuns Table.numeric c.toNat

/-- Is the character alphabetic or a number? -/
def isAlphanumeric (c : Char) : Bool := isAlphabetic c || isNumeric c

/-- Is the character uppercase, lowercase or titlecase? -/
def isCased (c : Char) : Bool :=
  isUpper c || isLower c || Table.inRuns Table.titlecase c.toNat

/-- Is the character passed over in the search for a cased neighbour? -/
def isCaseIgnorable (c : Char) : Bool := Table.inRuns Table.caseIgnorable c.toNat

/-- The image of a character under a case map given by its shifts and expansions. -/
def mapCase (shifts : List Table.Shift) (expansions : List (Nat × List Nat)) (c : Char) :
    List Char :=
  match expansions.lookup c.toNat with
  | some codes => codes.map Char.ofNat
  | none => [((Table.shifted? shifts c.toNat).map Char.ofNat).getD c]

/-- The lowercase form of a single character. -/
def lowerChar (c : Char) : List Char :=
  if isAscii c then [asciiLower c] else mapCase Table.lowerShifts Table.lowerExpansions c

/-- The uppercase form of a single character. -/
def upperChar (c : Char) : List Char :=
  if isAscii c then [asciiUpper c] else mapCase Table.upperShifts Table.upperExpansions c

/-- Is the first character that is not passed over a cased one? -/
def meetsCased (cs : List Char) : Bool :=
  match cs.dropWhile isCaseIgnorable with
  | [] => false
  | c :: _ => isCased c

/-- The lowercase form of the rest of a text, where `before` holds the characters already met, the
last one first.  A capital sigma takes its final form when a cased character stands before it and
none after it. -/
def lowerFrom (before : List Char) : List Char → List Char
  | [] => []
  | c :: rest =>
    let image :=
      if c = 'Σ' then [if meetsCased before && !meetsCased rest then 'ς' else 'σ'] else lowerChar c
    image ++ lowerFrom (c :: before) rest

/-- The lowercase form of the characters of a text. -/
def lowerChars (cs : List Char) : List Char := lowerFrom [] cs

/-- The lowercase form of a text. -/
def lowercase (s : String) : String := String.ofList (lowerChars s.toList)

/-- The uppercase form of a text. -/
def uppercase (s : String) : String := String.ofList (s.toList.flatMap upperChar)

/-- The text with its first character in uppercase. -/
def capitalize (s : String) : String :=
  match s.toList with
  | [] => ""
  | c :: rest => String.ofList (upperChar c ++ rest)

end ApiTools.Text
