/-!
# A place in YAML text

A `Cursor` holds the text to be read with the line and the column where it begins.  The characters
that end a line are the carriage return, the line feed, U+0085, U+2028 and U+2029; the first three,
and a carriage return with a line feed, stand for a line feed.
-/

namespace ApiTools.Yaml

/-- Does the character end a line? -/
def isBreak (c : Char) : Bool :=
  c == '\n' || c == '\r' || c == '\u0085' || c == '\u2028' || c == '\u2029'

/-- Is it a space or a tab? -/
def isSpaceOrTab (c : Char) : Bool := c == ' ' || c == '\t'

/-- May the character stand in YAML text? -/
def isAllowed (c : Char) : Bool :=
  let n := c.toNat
  n == 0x09 || n == 0x0A || n == 0x0D || (0x20 ≤ n && n ≤ 0x7E) || n == 0x85
    || (0xA0 ≤ n && n ≤ 0xD7FF) || (0xE000 ≤ n && n ≤ 0xFFFD) || 0x10000 ≤ n

/-- Is there a space, a tab, a line break or the end of the text? -/
def atGap : List Char → Bool
  | [] => true
  | c :: _ => isSpaceOrTab c || isBreak c

/-- Is there a line break or the end of the text? -/
def atLineEnd : List Char → Bool
  | [] => true
  | c :: _ => isBreak c

/-- Is there the given character? -/
def startsWith (c : Char) : List Char → Bool
  | [] => false
  | d :: _ => c == d

/-- May the character stand in a name of an anchor, a handle or a directive? -/
def isNameChar (c : Char) : Bool :=
  let n := c.toNat
  (48 ≤ n && n ≤ 57) || (65 ≤ n && n ≤ 90) || (97 ≤ n && n ≤ 122) || c == '_' || c == '-'

/-- The text to be read and where it begins. -/
structure Cursor where
  rest : List Char
  /-- The number of characters before it. -/
  index : Nat
  line : Nat
  column : Nat

namespace Cursor

/-- The beginning of a text. -/
def start (text : List Char) : Cursor := ⟨text, 0, 0, 0⟩

/-- The place after one character of the line. -/
def skip (cur : Cursor) : Cursor :=
  { cur with rest := cur.rest.tail, index := cur.index + 1, column := cur.column + 1 }

/-- The place after some characters of the line. -/
def skipMany (cur : Cursor) (count : Nat) : Cursor :=
  { cur with
    rest := cur.rest.drop count, index := cur.index + count, column := cur.column + count }

/-- The place after the characters of the line that satisfy `p`. -/
def skipWhile (cur : Cursor) (p : Char → Bool) : Cursor :=
  cur.skipMany (cur.rest.takeWhile p).length

/-- The place after a line break. -/
def skipBreak (cur : Cursor) : Cursor :=
  match cur.rest with
  | '\r' :: '\n' :: rest => ⟨rest, cur.index + 2, cur.line + 1, 0⟩
  | _ :: rest => ⟨rest, cur.index + 1, cur.line + 1, 0⟩
  | [] => cur

/-- The character that the line break here stands for. -/
def breakChar (cur : Cursor) : Char :=
  match cur.rest with
  | '\u2028' :: _ => '\u2028'
  | '\u2029' :: _ => '\u2029'
  | _ => '\n'

/-- Is there a document marker of three of the given characters at the beginning of a line? -/
def atMarker (cur : Cursor) (c : Char) : Bool :=
  cur.column == 0 &&
    match cur.rest with
    | a :: b :: d :: rest => a == c && b == c && d == c && atGap rest
    | _ => false

/-- Is there a marker of the beginning or the end of a document? -/
def atDocumentMarker (cur : Cursor) : Bool := cur.atMarker '-' || cur.atMarker '.'

end Cursor

/-- The spaces and line breaks between two parts of a scalar. -/
structure Gap where
  /-- The spaces on the first line, in reverse. -/
  spaces : List Char
  /-- Has a line ended? -/
  broken : Bool
  /-- The break that ended the first line, unless it was escaped. -/
  leading : List Char
  /-- The further breaks, in reverse. -/
  trailing : List Char

namespace Gap

/-- No gap. -/
def none : Gap := ⟨[], false, [], []⟩

/-- The gap after an escaped line break. -/
def escaped : Gap := ⟨[], true, [], []⟩

/-- What the gap contributes to the scalar: the spaces within a line; between lines one space, or
the further breaks where there are some. -/
def text (gap : Gap) : List Char :=
  if !gap.broken then gap.spaces.reverse
  else if gap.leading = ['\n'] then
    if gap.trailing.isEmpty then [' '] else gap.trailing.reverse
  else gap.leading ++ gap.trailing.reverse

/-- Reads spaces and line breaks.  A tab that stands before the column `indent` of a further line is
refused. -/
def read : (fuel : Nat) → (indent : Int) → Gap → Cursor → Option (Gap × Cursor)
  | 0, _, gap, cur => some (gap, cur)
  | fuel + 1, indent, gap, cur =>
    match cur.rest with
    | [] => some (gap, cur)
    | c :: _ =>
      if isSpaceOrTab c then
        if gap.broken then
          if c == '\t' && (cur.column : Int) < indent then Option.none
          else read fuel indent gap cur.skip
        else read fuel indent { gap with spaces := c :: gap.spaces } cur.skip
      else if isBreak c then
        if gap.broken then
          read fuel indent { gap with trailing := cur.breakChar :: gap.trailing } cur.skipBreak
        else read fuel indent ⟨[], true, [cur.breakChar], []⟩ cur.skipBreak
      else some (gap, cur)

end Gap

end ApiTools.Yaml
