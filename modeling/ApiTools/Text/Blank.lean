/-!
# Blank characters

The characters with the Unicode property White_Space separate words.  `trim` removes them at both
ends of a text, `words` splits a text at them, and `collapse` leaves one space where a run of them
stood between two words.
-/

namespace ApiTools.Text

/-- Does the character have the property White_Space? -/
def isBlank (c : Char) : Bool :=
  let n := c.toNat
  (9 ≤ n && n ≤ 13) || n == 0x20 || n == 0x85 || n == 0xA0 || n == 0x1680
    || (0x2000 ≤ n && n ≤ 0x200A) || n == 0x2028 || n == 0x2029 || n == 0x202F || n == 0x205F
    || n == 0x3000

/-- The characters without those at either end that satisfy `p`. -/
def trimBy (p : Char → Bool) (cs : List Char) : List Char :=
  ((cs.dropWhile p).reverse.dropWhile p).reverse

/-- The characters without the blank ones at either end. -/
def trimChars (cs : List Char) : List Char := trimBy isBlank cs

/-- The text without the blank characters at either end. -/
def trim (s : String) : String := String.ofList (trimChars s.toList)

/-- Is every character of the text blank? -/
def isBlankText (s : String) : Bool := s.toList.all isBlank

/-- Every run of blank characters becomes one space. -/
def squeeze : List Char → List Char
  | [] => []
  | [c] => if isBlank c then [' '] else [c]
  | c :: d :: rest =>
    if isBlank c then
      if isBlank d then squeeze (d :: rest) else ' ' :: squeeze (d :: rest)
    else c :: squeeze (d :: rest)

/-- The text trimmed, with one space for every run of blank characters inside it. -/
def collapse (s : String) : String := String.ofList (squeeze (trimChars s.toList))

/-- The words still to be read, where `word` holds the word begun, in reverse. -/
def wordsFrom (word : List Char) : List Char → List (List Char)
  | [] => if word.isEmpty then [] else [word.reverse]
  | c :: rest =>
    if isBlank c then
      if word.isEmpty then wordsFrom [] rest else word.reverse :: wordsFrom [] rest
    else wordsFrom (c :: word) rest

/-- The maximal runs of characters that are not blank. -/
def wordChars (cs : List Char) : List (List Char) := wordsFrom [] cs

/-- The words of the text, in order. -/
def words (s : String) : List String := (wordChars s.toList).map String.ofList

end ApiTools.Text
