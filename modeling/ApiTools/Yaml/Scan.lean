import ApiTools.Yaml.Property
import ApiTools.Yaml.Scalar

/-!
# Scanning YAML text into tokens

Where a mapping key needs no mark of its own, it is recognised only when the colon after it is met;
its token, and that of a block which it begins, are then put in front of it.  `SimpleKey` remembers
such a place: the key must lie within one line and 1024 characters.
-/

namespace ApiTools.Yaml

/-- A place at which a key without a mark may begin. -/
structure SimpleKey where
  /-- May a colon still make it a key? -/
  possible : Bool
  /-- Must a colon follow? -/
  required : Bool
  /-- The number of tokens before it. -/
  tokenCount : Nat
  index : Nat
  line : Nat
  column : Nat

/-- No place for a key. -/
def SimpleKey.none : SimpleKey := ⟨false, false, 0, 0, 0, 0⟩

/-- The state of a scan. -/
structure Scan where
  cur : Cursor
  tokens : Array Token
  /-- The column of the innermost block, or -1 outside of all blocks. -/
  indent : Int
  /-- The columns of the blocks around it, innermost first. -/
  outer : List Int
  /-- The places for a key, one for each flow bracket that is open and one outside of them,
  innermost first. -/
  keys : List SimpleKey
  /-- May a key without a mark begin here? -/
  keyAllowed : Bool

namespace Scan

/-- The scan before the first token. -/
def start (text : List Char) : Scan := ⟨Cursor.start text, #[], -1, [], [.none], true⟩

/-- Is a flow bracket open? -/
def inFlow (s : Scan) : Bool := 1 < s.keys.length

/-- The scan with one more token. -/
def push (s : Scan) (token : Token) : Scan := { s with tokens := s.tokens.push token }

/-- The scan with the innermost place for a key replaced. -/
def setKey (s : Scan) (key : SimpleKey) : Scan := { s with keys := key :: s.keys.tail }

/-- The innermost place for a key. -/
def topKey (s : Scan) : SimpleKey := s.keys.headD .none

/-- Forgets the innermost place for a key; one that must become a key is an error. -/
def dropKey (s : Scan) : Option Scan :=
  let key := s.topKey
  if key.possible && key.required then none else some (s.setKey { key with possible := false })

/-- Remembers that a key may begin here. -/
def saveKey (s : Scan) : Option Scan :=
  if s.keyAllowed then
    s.dropKey.map fun s =>
      s.setKey ⟨true, !s.inFlow && s.indent = (s.cur.column : Int), s.tokens.size, s.cur.index,
        s.cur.line, s.cur.column⟩
  else some s

/-- Is the place too far back to become a key? -/
def isStale (s : Scan) (key : SimpleKey) : Bool :=
  key.possible && (key.line < s.cur.line || key.index + 1024 < s.cur.index)

/-- Forgets the places that are too far back; one that must become a key is an error. -/
def dropStaleKeys (s : Scan) : Option Scan :=
  if s.keys.any (fun key => s.isStale key && key.required) then none
  else
    let forget (key : SimpleKey) : SimpleKey :=
      if s.isStale key then { key with possible := false } else key
    some { s with keys := s.keys.map forget }

/-- Ends the blocks whose column is greater than the given one; `fuel` bounds their number. -/
def unrollWithin : (fuel : Nat) → (column : Int) → Scan → Scan
  | 0, _, s => s
  | fuel + 1, column, s =>
    if column < s.indent then
      unrollWithin fuel column
        { s with tokens := s.tokens.push .blockEnd, indent := s.outer.headD (-1),
                 outer := s.outer.tail }
    else s

/-- Ends the blocks whose column is greater than the given one, outside of flow brackets. -/
def unroll (s : Scan) (column : Int) : Scan :=
  if s.inFlow then s else unrollWithin (s.outer.length + 1) column s

/-- The array with an element put in at a position. -/
def insertToken (tokens : Array Token) (position : Nat) (token : Token) : Array Token :=
  (tokens.extract 0 position).push token ++ tokens.extract position tokens.size

/-- Begins a block at a column that is greater than that of the innermost one, outside of flow
brackets.  Its token goes to the given position. -/
def roll (s : Scan) (column : Nat) (position : Nat) (token : Token) : Scan :=
  if !s.inFlow && s.indent < (column : Int) then
    { s with tokens := insertToken s.tokens position token, outer := s.indent :: s.outer,
             indent := column }
  else s

/-- Skips spaces, comments and line breaks up to the next token.  Tabs are skipped inside flow
brackets and where no key may begin. -/
def skipToToken : (fuel : Nat) → Scan → Scan
  | 0, s => s
  | fuel + 1, s =>
    let cur := if s.cur.column = 0 && startsWith '\ufeff' s.cur.rest then s.cur.skip else s.cur
    let tabs := s.inFlow || !s.keyAllowed
    let cur := cur.skipWhile fun c => c == ' ' || (tabs && c == '\t')
    let cur := if startsWith '#' cur.rest then cur.skipWhile (!isBreak ·) else cur
    if (cur.rest.head?.map isBreak).getD false then
      skipToToken fuel { s with cur := cur.skipBreak, keyAllowed := s.keyAllowed || !s.inFlow }
    else { s with cur := cur }

/-- Takes a mark of one character as a token. -/
def takeMark (s : Scan) (token : Token) : Scan := { s.push token with cur := s.cur.skip }

/-- A marker of the beginning or the end of a document. -/
def fetchDocumentMarker (s : Scan) (token : Token) : Option Scan :=
  (s.unroll (-1)).dropKey.map fun s =>
    { s.push token with cur := s.cur.skipMany 3, keyAllowed := false }

/-- A directive. -/
def fetchDirective (s : Scan) : Option Scan :=
  (s.unroll (-1)).dropKey.bind fun s =>
    (readDirective s.cur.skip).map fun (token, cur) =>
      { s.push token with cur := cur, keyAllowed := false }

/-- An opening flow bracket. -/
def fetchOpening (s : Scan) (token : Token) : Option Scan :=
  s.saveKey.map fun s =>
    { s.takeMark token with keys := .none :: s.keys, keyAllowed := true }

/-- A closing flow bracket. -/
def fetchClosing (s : Scan) (token : Token) : Option Scan :=
  s.dropKey.map fun s =>
    { s.takeMark token with keys := if s.inFlow then s.keys.tail else s.keys, keyAllowed := false }

/-- A comma. -/
def fetchFlowEntry (s : Scan) : Option Scan :=
  s.dropKey.map fun s => { s.takeMark .flowEntry with keyAllowed := true }

/-- A hyphen that begins an item. -/
def fetchBlockEntry (s : Scan) : Option Scan :=
  if !s.inFlow && !s.keyAllowed then none
  else
    (s.roll s.cur.column s.tokens.size .blockSequenceStart).dropKey.map fun s =>
      { s.takeMark .blockEntry with keyAllowed := true }

/-- A question mark that begins a key. -/
def fetchKey (s : Scan) : Option Scan :=
  if !s.inFlow && !s.keyAllowed then none
  else
    (s.roll s.cur.column s.tokens.size .blockMappingStart).dropKey.map fun s =>
      { s.takeMark .key with keyAllowed := !s.inFlow }

/-- A colon that begins a value. -/
def fetchValue (s : Scan) : Option Scan :=
  let key := s.topKey
  if key.possible then
    let s := { s with tokens := insertToken s.tokens key.tokenCount .key }
    let s := (s.roll key.column key.tokenCount .blockMappingStart).setKey
      { key with possible := false }
    some { s.takeMark .value with keyAllowed := false }
  else if !s.inFlow && !s.keyAllowed then none
  else
    let s := s.roll s.cur.column s.tokens.size .blockMappingStart
    some { s.takeMark .value with keyAllowed := !s.inFlow }

/-- The name of an anchor or an alias. -/
def fetchName (s : Scan) (token : String → Token) : Option Scan :=
  s.saveKey.bind fun s =>
    (readName s.cur.skip).map fun (name, cur) =>
      { s.push (token name) with cur := cur, keyAllowed := false }

/-- A tag. -/
def fetchTag (s : Scan) : Option Scan :=
  s.saveKey.bind fun s =>
    (readTagToken s.inFlow s.cur).map fun (token, cur) =>
      { s.push token with cur := cur, keyAllowed := false }

/-- A block scalar. -/
def fetchBlockScalar (s : Scan) (style : ScalarStyle) : Option Scan :=
  s.dropKey.bind fun s =>
    (readBlock (style = .literal) s.indent s.cur.skip).map fun (text, cur) =>
      { s.push (.scalar style text) with cur := cur, keyAllowed := true }

/-- A quoted scalar. -/
def fetchQuoted (s : Scan) (style : ScalarStyle) : Option Scan :=
  s.saveKey.bind fun s =>
    let cur := s.cur.skip
    (readQuoted (style = .singleQuoted) (cur.rest.length + 1) [] cur).map fun (text, cur) =>
      { s.push (.scalar style text) with cur := cur, keyAllowed := false }

/-- A plain scalar. -/
def fetchPlain (s : Scan) : Option Scan :=
  s.saveKey.bind fun s =>
    (readPlain s.inFlow (s.indent + 1) (s.cur.rest.length + 1) [] .none s.cur).map
      fun (text, broken, cur) =>
        { s.push (.scalar .plain text) with cur := cur, keyAllowed := broken }

/-- Is it a mark that a plain scalar cannot begin with? -/
def isMark (c : Char) : Bool := "-?:,[]\x7b\x7d#&*!|>'\"%@\x60".toList.contains c

/-- May a plain scalar begin here? -/
def beginsPlain (inFlow : Bool) (c : Char) (rest : List Char) : Bool :=
  !(isMark c || isSpaceOrTab c || isBreak c)
    || (c == '-' && !(rest.head?.map isSpaceOrTab).getD false)
    || (!inFlow && (c == '?' || c == ':') && !atGap rest)

/-- The end of the text. -/
def fetchEnd (s : Scan) : Option Scan :=
  let cur := if s.cur.column ≠ 0 then { s.cur with column := 0, line := s.cur.line + 1 } else s.cur
  let s : Scan := { s with cur := cur }
  (s.unroll (-1)).dropKey.map fun (s : Scan) => s.push .streamEnd

/-- The token that begins here. -/
def fetchToken (s : Scan) (c : Char) (rest : List Char) : Option Scan :=
  if s.cur.column = 0 && c = '%' then s.fetchDirective
  else if s.cur.atMarker '-' then s.fetchDocumentMarker .documentStart
  else if s.cur.atMarker '.' then s.fetchDocumentMarker .documentEnd
  else if c = '[' then s.fetchOpening .flowSequenceStart
  else if c = '\x7b' then s.fetchOpening .flowMappingStart
  else if c = ']' then s.fetchClosing .flowSequenceEnd
  else if c = '\x7d' then s.fetchClosing .flowMappingEnd
  else if c = ',' then s.fetchFlowEntry
  else if c = '-' && atGap rest then s.fetchBlockEntry
  else if c = '?' && (s.inFlow || atGap rest) then s.fetchKey
  else if c = ':' && (s.inFlow || atGap rest) then s.fetchValue
  else if c = '*' then s.fetchName .alias
  else if c = '&' then s.fetchName .anchor
  else if c = '!' then s.fetchTag
  else if c = '|' && !s.inFlow then s.fetchBlockScalar .literal
  else if c = '>' && !s.inFlow then s.fetchBlockScalar .folded
  else if c = '\'' then s.fetchQuoted .singleQuoted
  else if c = '"' then s.fetchQuoted .doubleQuoted
  else if beginsPlain s.inFlow c rest then s.fetchPlain
  else none

/-- Scans up to the end of the text; `fuel` bounds the number of tokens. -/
def run : (fuel : Nat) → Scan → Option Scan
  | 0, _ => none
  | fuel + 1, s => do
    let s ← (skipToToken (s.cur.rest.length + 1) s).dropStaleKeys
    let s := s.unroll s.cur.column
    match s.cur.rest with
    | [] => s.fetchEnd
    | c :: rest => run fuel (← s.fetchToken c rest)

end Scan

/-- The text without a byte order mark at its beginning. -/
def withoutMark : List Char → List Char
  | '\ufeff' :: rest => rest
  | cs => cs

/-- The tokens of a text.  Each token that is fetched takes at least one character, so their number
bounds the steps. -/
def tokens? (text : String) : Option (List Token) :=
  let cs := withoutMark text.toList
  if cs.all isAllowed then (Scan.run (cs.length + 1) (Scan.start cs)).map (·.tokens.toList)
  else none

end ApiTools.Yaml
