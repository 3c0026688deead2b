import ApiTools.JsonPath
import ApiTools.Text.Blank

/-!
# Reading paths

A path is written as `$` and then segments: `.` and a name, `.*`, `[*]`, a position in brackets, or
quoted keys in brackets.  A backslash in a quoted key makes the next character literal.  Descent to
any depth (`..`) and filters are refused.
-/

namespace ApiTools

/-- Why a text is not a path. -/
inductive PathError where
  | noRoot
  | recursiveDescent
  | emptyName
  | unexpected (c : Char)
  | openWildcard
  | expectedKey
  | unterminatedKey
  | expectedSeparator
  | openIndex
  | indexTooGreat
  | unsupportedBracket
  deriving DecidableEq, Repr

/-- The error in words. -/
def PathError.message : PathError → String
  | noRoot => "must start with '$'"
  | recursiveDescent => "recursive descent is not supported"
  | emptyName => "empty name after '.'"
  | unexpected c => "unexpected character '" ++ c.toString ++ "'"
  | openWildcard => "expected ']' after '*'"
  | expectedKey => "expected quoted key"
  | unterminatedKey => "unterminated string"
  | expectedSeparator => "expected ',' or ']'"
  | openIndex => "expected ']' after index"
  | indexTooGreat => "index out of range"
  | unsupportedBracket => "unsupported bracket expression"

namespace JsonPath

/-- Does the character belong to a name after a point? -/
def isNameChar (c : Char) : Bool := c != '.' && c != '['

/-- The segment of a nonempty name after a point. -/
def namedSegment (name : List Char) : Segment :=
  if name = ['*'] then .wildcard else .key (String.ofList name)

/-- Reads a quoted key after its opening quote, up to the same quote.  `done` holds the characters
already read, in reverse. -/
def readKey (quote : Char) (done : List Char) : List Char → Except PathError (List Char × List Char)
  | [] => .error .unterminatedKey
  | ['\\'] => .error .unterminatedKey
  | '\\' :: c :: rest => readKey quote (c :: done) rest
  | c :: rest => if c = quote then .ok (done.reverse, rest) else readKey quote (c :: done) rest

/-- The text after its leading spaces. -/
def skipSpaces (cs : List Char) : List Char := cs.dropWhile (· == ' ')

/-- Reads quoted keys separated by commas, up to the closing bracket; `fuel` bounds their number. -/
def readKeys : (fuel : Nat) → List Char → Except PathError (List String × List Char)
  | 0, _ => .error .expectedKey
  | fuel + 1, cs =>
    match cs with
    | [] => .error .expectedKey
    | quote :: rest =>
      if quote = '\'' || quote = '"' then
        match readKey quote [] rest with
        | .error e => .error e
        | .ok (key, rest) =>
          match skipSpaces rest with
          | ',' :: rest =>
            match readKeys fuel (skipSpaces rest) with
            | .error e => .error e
            | .ok (keys, rest) => .ok (String.ofList key :: keys, rest)
          | ']' :: rest => .ok ([String.ofList key], rest)
          | _ => .error .expectedSeparator
      else .error .expectedKey

/-- The segment of the keys in brackets. -/
def keysSegment : List String → Segment
  | [name] => .key name
  | names => .keys names

/-- Reads a position in brackets, up to the closing one. -/
def readIndex (cs : List Char) : Except PathError (Segment × List Char) :=
  match cs.dropWhile isDigitChar with
  | ']' :: rest =>
    match positionOfDigits? (cs.takeWhile isDigitChar) with
    | some i => .ok (.index i, rest)
    | none => .error .indexTooGreat
  | _ => .error .openIndex

/-- Reads a segment after its opening bracket. -/
def readBracket (cs : List Char) : Except PathError (Segment × List Char) :=
  match cs with
  | [] => .error .unsupportedBracket
  | '*' :: rest =>
    match rest with
    | ']' :: rest => .ok (.wildcard, rest)
    | _ => .error .openWildcard
  | c :: _ =>
    if c = '\'' || c = '"' then
      (readKeys cs.length cs).map fun (keys, rest) => (keysSegment keys, rest)
    else if isDigitChar c then readIndex cs
    else .error .unsupportedBracket

/-- Reads segments up to the end of the text; `fuel` bounds their number. -/
def readSegments : (fuel : Nat) → List Char → Except PathError (List Segment)
  | _, [] => .ok []
  | 0, c :: _ => .error (.unexpected c)
  | fuel + 1, c :: rest =>
    if c = '.' then
      match rest with
      | '.' :: _ => .error .recursiveDescent
      | _ =>
        let name := rest.takeWhile isNameChar
        if name.isEmpty then .error .emptyName
        else (readSegments fuel (rest.dropWhile isNameChar)).map (namedSegment name :: ·)
    else if c = '[' then
      match readBracket rest with
      | .error e => .error e
      | .ok (segment, rest) => (readSegments fuel rest).map (segment :: ·)
    else .error (.unexpected c)

/-- Reads a path.  Each segment has at least one character, so their number bounds the segments. -/
def read (text : String) : Except PathError JsonPath :=
  match Text.trimChars text.toList with
  | '$' :: rest => (readSegments rest.length rest).map JsonPath.mk
  | _ => .error .noRoot

end JsonPath

end ApiTools
