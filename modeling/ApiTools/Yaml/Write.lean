import ApiTools.Yaml.Value

/-!
# Writing YAML

`Document.yaml` writes a document in blocks.  A text is written plain where its spelling leaves no
doubt, else in single quotes, else in double quotes; a text with line feeds becomes a literal block
scalar where that keeps it.  Keys of more than 128 bytes and keys of several lines get a mark of
their own.  Nothing is folded.
-/

namespace ApiTools

/-- Numbers of YAML text: positional from `0.00001` up to but not including `10 ^ 16`. -/
def yamlNumber : DecimalFormat := ⟨-5, 16, false, true, ".nan", ".inf", "-.inf"⟩

namespace Yaml

/-! ### Choosing a style -/

/-- Can the character be written without an escape? -/
def isPrintable (c : Char) : Bool :=
  let n := c.toNat
  n == 0x0A || (0x20 ≤ n && n ≤ 0x7E) || (0xA0 ≤ n && n ≤ 0xD7FF)
    || (0xE000 ≤ n && n ≤ 0xFFFD && n ≠ 0xFEFF)

/-- Is it a mark that no plain scalar begins with? -/
def isLeadingMark (c : Char) : Bool := "#,[]\x7b\x7d&*!|>'\"%@\x60".toList.contains c

/-- Do the first characters of a scalar rule out the plain style? -/
def startMarks : List Char → Bool
  | [] => false
  | c :: rest =>
    isLeadingMark c || ((c == '?' || c == ':' || c == '-') && atGap rest)
      || "---".toList.isPrefixOf (c :: rest) || "...".toList.isPrefixOf (c :: rest)

/-- Does a character inside a scalar rule out the plain style?  `before` is the character before
it. -/
def innerMarks (before : Char) : List Char → Bool
  | [] => false
  | c :: rest =>
    (c == ':' && atGap rest) || (c == '#' && (isSpaceOrTab before || isBreak before))
      || innerMarks c rest

/-- Is there a character that satisfies `p` directly before one that satisfies `q`? -/
def adjacent (p q : Char → Bool) : List Char → Bool
  | c :: d :: rest => (p c && q d) || adjacent p q (d :: rest)
  | _ => false

/-- Is it a space? -/
def isSpace (c : Char) : Bool := c == ' '

/-- May the text be written plain, in a line of a block? -/
def allowsPlain (cs : List Char) : Bool :=
  !cs.any isBreak && cs.all isPrintable && !startMarks cs
    && !innerMarks (cs.headD ' ') cs.tail
    && !(cs.head?.map isSpace).getD false && !(cs.getLast?.map isSpace).getD false

/-- Does a space stand before a line break, or is there a character that must be escaped? -/
def needsEscapes (cs : List Char) : Bool :=
  adjacent isSpace isBreak cs || !cs.all isPrintable

/-- May the text be written in single quotes? -/
def allowsSingleQuotes (cs : List Char) : Bool :=
  !needsEscapes cs && !adjacent isBreak isSpace cs

/-- May the text be written as a literal block scalar? -/
def allowsLiteral (cs : List Char) : Bool :=
  !cs.isEmpty && !needsEscapes cs && !(cs.getLast?.map isSpace).getD false

/-- Would the plain spelling be read as something other than a text, or be taken for an octal
number? -/
def isAmbiguous (s : String) : Bool := Plain.ofText s ≠ .text || Plain.isZeroPadded s.toList

/-- The style of a text. -/
def styleOf (inKey : Bool) (s : String) : ScalarStyle :=
  let cs := s.toList
  let quoted := if allowsSingleQuotes cs then .singleQuoted else .doubleQuoted
  if inKey && cs.any isBreak then .doubleQuoted
  else if cs.contains '\n' then if allowsLiteral cs && !inKey then .literal else .doubleQuoted
  else if isAmbiguous s then quoted
  else if allowsPlain cs then .plain
  else quoted

/-! ### Writing scalars -/

/-- The letter of the escape of a character that has one. -/
def escapeLetter? : Char → Option Char
  | '\x00' => some '0'
  | '\x07' => some 'a'
  | '\x08' => some 'b'
  | '\t' => some 't'
  | '\n' => some 'n'
  | '\x0b' => some 'v'
  | '\x0c' => some 'f'
  | '\r' => some 'r'
  | '\x1b' => some 'e'
  | '"' => some '"'
  | '\\' => some '\\'
  | '\u0085' => some 'N'
  | '\u00a0' => some '_'
  | '\u2028' => some 'L'
  | '\u2029' => some 'P'
  | _ => none

/-- The digits of a number in base 16, in capitals and filled up to the given width. -/
def hexText (n width : Nat) : List Char :=
  let digits := (Nat.toDigits 16 n).map fun c =>
    if 97 ≤ c.toNat then Char.ofNat (c.toNat - 32) else c
  List.replicate (width - digits.length) '0' ++ digits

/-- A character as it stands in double quotes. -/
def escapeDouble (c : Char) : List Char :=
  if isPrintable c && !isBreak c && c ≠ '"' && c ≠ '\\' then [c]
  else
    match escapeLetter? c with
    | some letter => ['\\', letter]
    | none =>
      let n := c.toNat
      if n ≤ 0xFF then '\\' :: 'x' :: hexText n 2
      else if n ≤ 0xFFFF then '\\' :: 'u' :: hexText n 4
      else '\\' :: 'U' :: hexText n 8

/-- The characters with the indentation before the first one of each line. -/
def indented (indent : Nat) (escape : Char → List Char) : (broken : Bool) → List Char → List Char
  | _, [] => []
  | broken, c :: rest =>
    if isBreak c then c :: indented indent escape true rest
    else (if broken then List.replicate indent ' ' else []) ++ escape c
      ++ indented indent escape false rest

/-- A text in single quotes, where quotes are doubled. -/
def singleQuoted (indent : Nat) (cs : List Char) : List Char :=
  let body := indented indent (fun c => if c == '\'' then ['\'', '\''] else [c]) false cs
  let ending := if (cs.getLast?.map isBreak).getD false then List.replicate indent ' ' else []
  '\'' :: body ++ ending ++ ['\'']

/-- The mark for the line breaks at the end of a literal block scalar. -/
def chompingMark (cs : List Char) : List Char :=
  match cs.reverse with
  | [] => ['-']
  | last :: before =>
    if !isBreak last then ['-']
    else
      match before with
      | [] => ['+']
      | c :: _ => if isBreak c then ['+'] else []

/-- The mark for the indentation of a literal block scalar whose first line does not show it. -/
def indentationMark (cs : List Char) : List Char :=
  if (cs.head?.map fun c => isSpace c || isBreak c).getD false then ['2'] else []

/-- A literal block scalar. -/
def literalBlock (indent : Nat) (cs : List Char) : List Char :=
  '|' :: indentationMark cs ++ chompingMark cs ++ '\n' :: indented indent ([·]) true cs

/-- A text in its style, with further lines at the given indentation. -/
def scalarText (style : ScalarStyle) (indent : Nat) (cs : List Char) : List Char :=
  match style with
  | .singleQuoted => singleQuoted indent cs
  | .doubleQuoted => '"' :: cs.flatMap escapeDouble ++ ['"']
  | .literal => literalBlock indent cs
  | _ => cs

/-- Can the text be a key without a mark of its own? -/
def isSimpleKey (s : String) : Bool := !s.toList.any isBreak && s.utf8ByteSize ≤ 128

/-- A line feed, unless a literal block scalar has just ended with a line break. -/
def lineEnd (written : List Char) : List Char :=
  if (written.getLast?.map isBreak).getD false then [] else ['\n']

/-! ### Writing documents -/

/-- What a node stands behind. -/
inductive Lead where
  /-- A key with its colon. -/
  | simpleKey
  /-- A mark of one character at the given column, in whose line the node begins. -/
  | mark

/-- The text of a scalar with the space before it. -/
def spaced (text : List Char) : List Char := if text.isEmpty then [] else ' ' :: text

mutual
/-- The node behind its lead, up to the end of the line.  `indent` is the column of the mapping or
the list that holds it. -/
def node (lead : Lead) (indent : Nat) : Document → List Char
  | .null => " null\n".toList
  | .bool true => " true\n".toList
  | .bool false => " false\n".toList
  | .number (.int i) => spaced (intText i).toList ++ ['\n']
  | .number (.float x) => spaced (yamlNumber.write x).toList ++ ['\n']
  | .text s =>
    let text := scalarText (styleOf false s) (indent + 2) s.toList
    spaced text ++ lineEnd text
  | .list [] => " []\n".toList
  | .object [] => " \x7b\x7d\n".toList
  | .list items =>
    match lead with
    | .simpleKey => '\n' :: itemLines indent true items
    | .mark => ' ' :: itemLines (indent + 2) false items
  | .object members =>
    match lead with
    | .simpleKey => '\n' :: memberLines (indent + 2) true members
    | .mark => ' ' :: memberLines (indent + 2) false members

/-- The items of a list at a column; the first one may stand in the line already begun. -/
def itemLines (indent : Nat) : (newLine : Bool) → List Document → List Char
  | _, [] => []
  | newLine, item :: rest =>
    (if newLine then List.replicate indent ' ' else []) ++ '-' :: node .mark indent item
      ++ itemLines indent true rest

/-- The members of a mapping at a column; the first one may stand in the line already begun. -/
def memberLines (indent : Nat) : (newLine : Bool) → List (String × Document) → List Char
  | _, [] => []
  | newLine, (key, value) :: rest =>
    let start := if newLine then List.replicate indent ' ' else []
    let member :=
      if isSimpleKey key then
        scalarText (styleOf true key) (indent + 2) key.toList ++ ':' :: node .simpleKey indent value
      else
        let text := scalarText (styleOf false key) (indent + 2) key.toList
        '?' :: spaced text ++ lineEnd text ++ List.replicate indent ' '
          ++ ':' :: node .mark indent value
    start ++ member ++ memberLines indent true rest
end

end Yaml

/-- The YAML text of a document. -/
def Document.yaml : Document → String
  | .object (first :: rest) => String.ofList (Yaml.memberLines 0 true (first :: rest))
  | .list (first :: rest) => String.ofList (Yaml.itemLines 0 true (first :: rest))
  -- A document that is one scalar has no key or mark, and so no space, in front.
  | scalar => String.ofList (Yaml.node .mark 0 scalar).tail

end ApiTools
