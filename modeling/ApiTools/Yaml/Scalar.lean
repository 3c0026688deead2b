import ApiTools.Yaml.Cursor
import ApiTools.Text.Quoted

/-!
# Reading YAML scalars

A quoted or plain scalar may run over several lines: one line break between two lines stands for a
space, and further ones for themselves.  A block scalar keeps its lines, or folds them, below an
indentation that its first line or its head gives.
-/

namespace ApiTools.Yaml

/-! ### Quoted scalars -/

/-- The character of an escape that consists of one letter. -/
def escapedChar? : Char → Option Char
  | '0' => some '\x00'
  | 'a' => some '\x07'
  | 'b' => some '\x08'
  | 't' => some '\t'
  | '\t' => some '\t'
  | 'n' => some '\n'
  | 'v' => some '\x0b'
  | 'f' => some '\x0c'
  | 'r' => some '\r'
  | 'e' => some '\x1b'
  | ' ' => some ' '
  | '"' => some '"'
  | '/' => some '/'
  | '\\' => some '\\'
  | 'N' => some '\u0085'
  | '_' => some '\u00a0'
  | 'L' => some '\u2028'
  | 'P' => some '\u2029'
  | _ => none

/-- The number of hexadecimal digits after a letter that announces a code. -/
def codeLength? : Char → Option Nat
  | 'x' => some 2
  | 'u' => some 4
  | 'U' => some 8
  | _ => none

/-- The value of hexadecimal digits. -/
def hexCode? (digits : List Char) : Option Nat :=
  digits.foldlM (fun n c => (Text.Quoted.hexValue? c).map (n * 16 + ·)) 0

/-- The character with a code, where it is one. -/
def charOfCode? (code : Nat) : Option Char :=
  if (0xD800 ≤ code && code ≤ 0xDFFF) || 0x10FFFF < code then none else some (Char.ofNat code)

/-- Reads an escape after its backslash: the character, and how long the escape is. -/
def readEscape (cs : List Char) : Option (Char × Nat) :=
  match cs with
  | [] => none
  | letter :: rest =>
    match escapedChar? letter, codeLength? letter with
    | some c, _ => some (c, 1)
    | none, some length =>
      let digits := rest.take length
      if digits.length = length then
        (hexCode? digits).bind fun code => (charOfCode? code).map (·, 1 + length)
      else none
    | none, none => none

/-- Reads the characters of a quoted scalar up to a space, a line break, the closing quote or the
end of the text.  Tells whether it ended at an escaped line break.  `done` holds the characters
already read, in reverse. -/
def readQuotedRun (single : Bool) : (fuel : Nat) → List Char → Cursor →
    Option (List Char × Bool × Cursor)
  | 0, done, cur => some (done, false, cur)
  | fuel + 1, done, cur =>
    match cur.rest with
    | [] => some (done, false, cur)
    | c :: rest =>
      if isSpaceOrTab c || isBreak c then some (done, false, cur)
      else if single then
        if c == '\'' then
          if startsWith '\'' rest then readQuotedRun single fuel ('\'' :: done) (cur.skipMany 2)
          else some (done, false, cur)
        else readQuotedRun single fuel (c :: done) cur.skip
      else if c == '"' then some (done, false, cur)
      else if c == '\\' then
        if !rest.isEmpty && atLineEnd rest then some (done, true, cur.skip.skipBreak)
        else
          match readEscape rest with
          | some (escaped, length) =>
            readQuotedRun single fuel (escaped :: done) (cur.skipMany (1 + length))
          | none => none
      else readQuotedRun single fuel (c :: done) cur.skip

/-- Reads a quoted scalar after its opening quote. -/
def readQuoted (single : Bool) : (fuel : Nat) → List Char → Cursor → Option (String × Cursor)
  | 0, _, _ => none
  | fuel + 1, done, cur =>
    if cur.atDocumentMarker then none
    else if cur.rest.isEmpty then none
    else
      match readQuotedRun single cur.rest.length done cur with
      | none => none
      | some (done, escapedBreak, cur) =>
        if startsWith (if single then '\'' else '"') cur.rest then
          some (String.ofList done.reverse, cur.skip)
        else
          let gap := if escapedBreak then Gap.escaped else Gap.none
          match gap.read cur.rest.length 0 cur with
          | none => none
          | some (gap, cur) => readQuoted single fuel (gap.text.reverse ++ done) cur

/-! ### Plain scalars -/

/-- Is it a mark that ends a plain scalar inside flow brackets? -/
def isFlowMark (c : Char) : Bool :=
  c == ',' || c == '[' || c == ']' || c == '\x7b' || c == '\x7d'

/-- The length of the run of characters up to which a plain scalar goes on without a gap.  A colon
before a flow mark is refused inside flow brackets. -/
def plainRun (inFlow : Bool) : List Char → Option Nat
  | [] => some 0
  | c :: rest =>
    if isSpaceOrTab c || isBreak c then some 0
    else if inFlow && c == ':' && (rest.head?.map fun d => isFlowMark d || d == '?').getD false then
      none
    else if c == ':' && atGap rest then some 0
    else if inFlow && isFlowMark c then some 0
    else (plainRun inFlow rest).map (· + 1)

/-- Reads a plain scalar whose further lines begin at least at the column `indent`.  Tells whether
it ended on a later line than it was written on. -/
def readPlain (inFlow : Bool) (indent : Int) : (fuel : Nat) → List Char → Gap → Cursor →
    Option (String × Bool × Cursor)
  | 0, _, _, _ => none
  | fuel + 1, done, gap, cur =>
    let finish := some (String.ofList done.reverse, gap.broken, cur)
    if cur.atDocumentMarker || startsWith '#' cur.rest then finish
    else
      match plainRun inFlow cur.rest with
      | none => none
      | some length =>
        let run := cur.rest.take length
        let done := if run.isEmpty then done else run.reverse ++ gap.text.reverse ++ done
        let gap := if run.isEmpty then gap else Gap.none
        let cur := cur.skipMany length
        let finish := some (String.ofList done.reverse, gap.broken, cur)
        if !cur.rest.isEmpty && atGap cur.rest then
          match gap.read cur.rest.length indent cur with
          | none => none
          | some (gap, cur) =>
            if !inFlow && (cur.column : Int) < indent then
              some (String.ofList done.reverse, gap.broken, cur)
            else readPlain inFlow indent fuel done gap cur
        else finish

/-! ### Block scalars -/

/-- What becomes of the line breaks at the end of a block scalar. -/
inductive Chomping where
  | strip
  | clip
  | keep
  deriving DecidableEq

/-- The line breaks before the next line of a block scalar and the indentation of that line.  A tab
where the indentation is looked for is refused.  Without a given indentation the longest one before
the line counts, which `most` collects. -/
def readBlockBreaks (given : Option Nat) : (fuel : Nat) → (most : Nat) → List Char → Cursor →
    Option (Nat × List Char × Cursor)
  | 0, most, breaks, cur => some (most, breaks, cur)
  | fuel + 1, most, breaks, cur =>
    let spaces := (cur.rest.takeWhile (· == ' ')).length
    let cur := cur.skipMany (match given with
      | some indent => min spaces (indent - cur.column)
      | none => spaces)
    let most := max most cur.column
    let inIndent := match given with
      | some indent => cur.column < indent
      | none => true
    if inIndent && startsWith '\t' cur.rest then none
    else
      match cur.rest with
      | [] => some (most, breaks, cur)
      | c :: _ =>
        if isBreak c then readBlockBreaks given fuel most (cur.breakChar :: breaks) cur.skipBreak
        else some (most, breaks, cur)

/-- The part of a block scalar already read. -/
structure BlockText where
  /-- The characters, in reverse. -/
  done : List Char
  /-- The break that ended the last line. -/
  leading : List Char
  /-- The breaks after it, in reverse. -/
  trailing : List Char
  /-- Did the last line begin with a space or a tab? -/
  indented : Bool

/-- Reads the lines of a block scalar that have the given indentation. -/
def readBlockLines (isLiteral : Bool) (indent : Nat) : (fuel : Nat) → BlockText → Cursor →
    Option (BlockText × Cursor)
  | 0, block, cur => some (block, cur)
  | fuel + 1, block, cur =>
    if cur.column ≠ indent || cur.rest.isEmpty then some (block, cur)
    else
      let indented := (cur.rest.head?.map isSpaceOrTab).getD false
      let folds := !isLiteral && block.leading = ['\n'] && !block.indented && !indented
      let joint :=
        if folds then (if block.trailing.isEmpty then [' '] else block.trailing)
        else block.trailing ++ block.leading
      let line := cur.rest.takeWhile (!isBreak ·)
      let cur := cur.skipMany line.length
      let done := line.reverse ++ joint ++ block.done
      let leading := if cur.rest.isEmpty then [] else [cur.breakChar]
      let cur := cur.skipBreak
      match readBlockBreaks (some indent) cur.rest.length 0 [] cur with
      | none => none
      | some (_, trailing, cur) =>
        readBlockLines isLiteral indent fuel ⟨done, leading, trailing, indented⟩ cur

/-- The chomping that a mark in the head asks for. -/
def chomping? : Char → Option Chomping
  | '+' => some .keep
  | '-' => some .strip
  | _ => none

/-- Is it a digit from 1 to 9? -/
def indentation? (c : Char) : Option Nat :=
  if 49 ≤ c.toNat && c.toNat ≤ 57 then some (c.toNat - 48) else none

/-- The head of a block scalar: chomping and indentation in either order, and how long they are. -/
def blockHead (cs : List Char) : Chomping × Option Nat × Nat :=
  match cs with
  | [] => (.clip, none, 0)
  | c :: rest =>
    match chomping? c, indentation? c with
    | some chomping, _ =>
      match rest.head?.bind indentation? with
      | some n => (chomping, some n, 2)
      | none => (chomping, none, 1)
    | none, some n =>
      match rest.head?.bind chomping? with
      | some chomping => (chomping, some n, 2)
      | none => (.clip, some n, 1)
    | none, none => (.clip, none, 0)

/-- Reads a block scalar after its mark, inside a block of the given indentation. -/
def readBlock (isLiteral : Bool) (parent : Int) (cur : Cursor) : Option (String × Cursor) :=
  let (chomping, increment, length) := blockHead cur.rest
  let cur := (cur.skipMany length).skipWhile isSpaceOrTab
  let cur := if startsWith '#' cur.rest then cur.skipWhile (!isBreak ·) else cur
  if !atLineEnd cur.rest then none
  else
    let cur := cur.skipBreak
    let given := increment.map fun n => (if 0 ≤ parent then parent + n else n).toNat
    match readBlockBreaks given cur.rest.length 0 [] cur with
    | none => none
    | some (most, breaks, cur) =>
      let indent := given.getD (max (max most (parent + 1).toNat) 1)
      match readBlockLines isLiteral indent (cur.rest.length + 1) ⟨[], [], breaks, false⟩ cur with
      | none => none
      | some (block, cur) =>
        let ending := match chomping with
          | .strip => []
          | .clip => block.leading
          | .keep => block.trailing ++ block.leading
        some (String.ofList (ending ++ block.done).reverse, cur)

end ApiTools.Yaml
