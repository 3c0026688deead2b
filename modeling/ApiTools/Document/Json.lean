import ApiTools.Document
import ApiTools.Text.Quoted

/-!
# Documents as JSON text

`Document.compact` writes a document without spaces and `Document.pretty` with two spaces of
indentation.  `Document.ofJson?` reads one; a repeated key keeps its first place and its last value.
-/

namespace ApiTools

/-- Numbers of JSON text: positional from `0.00001` up to but not including `10 ^ 16`, a sign on
every exponent elsewhere, and null for what JSON has no number for. -/
def jsonNumber : DecimalFormat := ⟨-5, 16, true, true, "null", "null", "null"⟩

/-- The JSON text of a number. -/
def Number.json : Number → String
  | .int i => intText i
  | .float x => jsonNumber.write x

namespace Document

open Text

/-! ### Writing -/

/-- The texts in order, with a comma between neighbours. -/
def commaSeparated : List (List Char) → List Char
  | [] => []
  | [one] => one
  | one :: rest => one ++ ',' :: commaSeparated rest

mutual
/-- The document without spaces. -/
def compactChars : Document → List Char
  | .null => "null".toList
  | .bool true => "true".toList
  | .bool false => "false".toList
  | .number n => n.json.toList
  | .text s => Quoted.encodeChars s.toList
  | .list items => '[' :: commaSeparated (compactItems items) ++ [']']
  | .object members => '\x7b' :: commaSeparated (compactMembers members) ++ ['\x7d']

/-- The items without spaces. -/
def compactItems : List Document → List (List Char)
  | [] => []
  | item :: rest => compactChars item :: compactItems rest

/-- The members without spaces. -/
def compactMembers : List (String × Document) → List (List Char)
  | [] => []
  | (key, value) :: rest =>
    (Quoted.encodeChars key.toList ++ ':' :: compactChars value) :: compactMembers rest
end

/-- The JSON text of the document without spaces. -/
def compact (doc : Document) : String := String.ofList (compactChars doc)

/-- A line feed and the given depth of indentation, two spaces each. -/
def newline (depth : Nat) : List Char := '\n' :: List.replicate (2 * depth) ' '

/-- The texts between brackets, each on a line of its own one level deeper than the brackets; the
brackets stand together when there are none. -/
def bracketed (opening closing : Char) (depth : Nat) : List (List Char) → List Char
  | [] => [opening, closing]
  | parts =>
    opening :: commaSeparated (parts.map (newline (depth + 1) ++ ·)) ++ newline depth ++ [closing]

mutual
/-- The document indented, at the given depth. -/
def prettyChars (depth : Nat) : Document → List Char
  | .list items => bracketed '[' ']' depth (prettyItems (depth + 1) items)
  | .object members => bracketed '\x7b' '\x7d' depth (prettyMembers (depth + 1) members)
  | scalar => compactChars scalar

/-- The items indented. -/
def prettyItems (depth : Nat) : List Document → List (List Char)
  | [] => []
  | item :: rest => prettyChars depth item :: prettyItems depth rest

/-- The members indented. -/
def prettyMembers (depth : Nat) : List (String × Document) → List (List Char)
  | [] => []
  | (key, value) :: rest =>
    (Quoted.encodeChars key.toList ++ ':' :: ' ' :: prettyChars depth value)
      :: prettyMembers depth rest
end

/-- The JSON text of the document, indented by two spaces. -/
def pretty (doc : Document) : String := String.ofList (prettyChars 0 doc)

/-! ### Reading -/

/-- Is it a space, a tab, a line feed or a carriage return? -/
def isJsonSpace (c : Char) : Bool := c == ' ' || c == '\n' || c == '\t' || c == '\r'

/-- The text after its leading spaces. -/
def skipSpaces (cs : List Char) : List Char := cs.dropWhile isJsonSpace

/-- Is it a digit? -/
def isDigit (c : Char) : Bool := 48 ≤ c.toNat && c.toNat ≤ 57

/-- The value of a digit. -/
def digitValue (c : Char) : Nat := c.toNat - 48

/-- The greatest significand that is kept while digits are read. -/
def maxSignificand : Nat := Nat.pow 2 64 - 1

/-- Takes digits into the significand as long as it stays within 64 bits.  Returns it with the
number of digits taken and what follows them. -/
def takeDigits (significand taken : Nat) : List Char → Nat × Nat × List Char
  | [] => (significand, taken, [])
  | c :: rest =>
    if isDigit c && significand * 10 + digitValue c ≤ maxSignificand then
      takeDigits (significand * 10 + digitValue c) (taken + 1) rest
    else (significand, taken, c :: rest)

/-- The nearest number to `significand · 10 ^ exponent`, got in two roundings: the significand
first, then its product with or its quotient by a power of ten.  Steps of 308 are divided off while
the exponent is below the least power.  A number too large for the format is refused. -/
def scaled (exponentFuel : Nat) (x : Binary64) (exponent : Int) : Option Binary64 :=
  if exponent.natAbs ≤ 308 then
    let power := Binary64.ofNat (Nat.pow 10 exponent.natAbs)
    let result := if 0 ≤ exponent then x * power else x / power
    if result.isFinite then some result else none
  else if x.isZero then some x
  else if 0 ≤ exponent then none
  else
    match exponentFuel with
    | 0 => some (Binary64.zero false)
    | fuel + 1 => scaled fuel (x / Binary64.ofNat (Nat.pow 10 308)) (exponent + 308)

/-- The floating-point number of the parts of a literal.  Any nonzero significand is zero after
three steps of 308, so four steps suffice. -/
def floatOfParts (negative : Bool) (significand : Nat) (exponent : Int) : Option Number :=
  (scaled 4 (Binary64.ofNat significand) exponent).map fun x =>
    .float (if negative then -x else x)

/-- The greatest exponent that is computed with. -/
def maxExponent : Nat := Nat.pow 2 31 - 1

/-- Reads the part of a literal after the letter of its exponent. -/
def readExponent (negative : Bool) (significand : Nat) (exponent : Int) (cs : List Char) :
    Option (Number × List Char) :=
  let (minus, cs) :=
    match cs with
    | '+' :: rest => (false, rest)
    | '-' :: rest => (true, rest)
    | _ => (false, cs)
  let digits := cs.takeWhile isDigit
  let rest := cs.dropWhile isDigit
  if digits.isEmpty then none
  else
    let value := digits.foldl (fun n c => n * 10 + digitValue c) 0
    if maxExponent < value then
      if significand ≠ 0 && !minus then none
      else some (.float (Binary64.zero negative), rest)
    else
      let exponent := if minus then exponent - value else exponent + value
      (floatOfParts negative significand exponent).map (·, rest)

/-- Reads the end of a literal that is a floating-point number without a fraction to come. -/
def readFloatEnd (negative : Bool) (significand : Nat) (exponent : Int) (cs : List Char) :
    Option (Number × List Char) :=
  match cs with
  | 'e' :: rest => readExponent negative significand exponent rest
  | 'E' :: rest => readExponent negative significand exponent rest
  | _ => (floatOfParts negative significand exponent).map (·, cs)

/-- Reads the part of a literal after its point.  Digits that no longer fit into the significand
are passed over. -/
def readFraction (negative : Bool) (significand : Nat) (exponent : Int) (cs : List Char) :
    Option (Number × List Char) :=
  match cs with
  | [] => none
  | c :: _ =>
    if isDigit c then
      let (significand, taken, rest) := takeDigits significand 0 cs
      readFloatEnd negative significand (exponent - taken) (rest.dropWhile isDigit)
    else none

/-- Reads a number, where a minus sign has been read if it is negative.  An integer that does not
fit into 64 bits, and minus zero, is a floating-point number; digits that no longer fit count as
powers of ten. -/
def readNumber (negative : Bool) (cs : List Char) : Option (Number × List Char) :=
  match cs with
  | [] => none
  | c :: rest =>
    if !isDigit c then none
    else if c = '0' && (rest.head?.map isDigit).getD false then none
    else
      let (significand, _, rest) := takeDigits 0 0 cs
      let dropped := (rest.takeWhile isDigit).length
      match rest.dropWhile isDigit with
      | '.' :: fraction => readFraction negative significand dropped fraction
      | rest =>
        if dropped ≠ 0 || rest.head? = some 'e' || rest.head? = some 'E' then
          readFloatEnd negative significand dropped rest
        else if !negative then some (.int significand, rest)
        else if significand = 0 || Nat.pow 2 63 < significand then
          some (.float (-(Binary64.ofNat significand)), rest)
        else some (.int (-significand), rest)

/-- The text after the given word. -/
def afterWord (word : String) (value : Document) (cs : List Char) :
    Option (Document × List Char) :=
  if word.toList.isPrefixOf cs then some (value, cs.drop word.length) else none

mutual
/-- Reads a value, and returns it with what follows.  Objects keep every entry that is written.
`depth` lists and objects may be nested in one another; `fuel` bounds the number of steps. -/
def readValue : (fuel depth : Nat) → List Char → Option (Document × List Char)
  | 0, _, _ => none
  | fuel + 1, depth, cs =>
    match skipSpaces cs with
    | [] => none
    | c :: rest =>
      if c = '"' then
        (Quoted.decodeFrom [] rest).map fun (s, rest) => (.text (String.ofList s), rest)
      else if c = '[' then
        match depth with
        | 0 => none
        | depth + 1 =>
          match skipSpaces rest with
          | ']' :: rest => some (.list [], rest)
          | rest => (readItems fuel depth rest).map fun (items, rest) => (.list items, rest)
      else if c = '\x7b' then
        match depth with
        | 0 => none
        | depth + 1 =>
          match skipSpaces rest with
          | '\x7d' :: rest => some (.object [], rest)
          | rest => (readMembers fuel depth rest).map fun (entries, rest) => (.object entries, rest)
      else if c = 't' then afterWord "true" (.bool true) (c :: rest)
      else if c = 'f' then afterWord "false" (.bool false) (c :: rest)
      else if c = 'n' then afterWord "null" .null (c :: rest)
      else if c = '-' then (readNumber true rest).map fun (n, rest) => (.number n, rest)
      else (readNumber false (c :: rest)).map fun (n, rest) => (.number n, rest)

/-- Reads the items of a list up to its closing bracket. -/
def readItems : (fuel depth : Nat) → List Char → Option (List Document × List Char)
  | 0, _, _ => none
  | fuel + 1, depth, cs =>
    match readValue fuel depth cs with
    | none => none
    | some (item, rest) =>
      match skipSpaces rest with
      | ',' :: rest => (readItems fuel depth rest).map fun (items, rest) => (item :: items, rest)
      | ']' :: rest => some ([item], rest)
      | _ => none

/-- Reads the members of an object up to its closing brace. -/
def readMembers : (fuel depth : Nat) → List Char → Option (List (String × Document) × List Char)
  | 0, _, _ => none
  | fuel + 1, depth, cs =>
    match skipSpaces cs with
    | '"' :: rest =>
      match Quoted.decodeFrom [] rest with
      | none => none
      | some (key, rest) =>
        match skipSpaces rest with
        | ':' :: rest =>
          match readValue fuel depth rest with
          | none => none
          | some (value, rest) =>
            let entry := (String.ofList key, value)
            match skipSpaces rest with
            | ',' :: rest =>
              (readMembers fuel depth rest).map fun (entries, rest) => (entry :: entries, rest)
            | '\x7d' :: rest => some ([entry], rest)
            | _ => none
        | _ => none
    | _ => none
end

mutual
/-- The document with one member for each key: a repeated key keeps its first place and its last
value. -/
def merged : Document → Document
  | .list items => .list (mergedItems items)
  | .object members => .object (Members.ofEntries (mergedMembers members))
  | scalar => scalar

/-- The items with one member for each key. -/
def mergedItems : List Document → List Document
  | [] => []
  | item :: rest => merged item :: mergedItems rest

/-- The values of the members with one member for each key. -/
def mergedMembers : List (String × Document) → List (String × Document)
  | [] => []
  | (key, value) :: rest => (key, merged value) :: mergedMembers rest
end

/-- The nesting of lists and objects that is read from text. -/
def maxDepth : Nat := 127

/-- Reads a text that is one value with all its entries, lists and objects nested at most `depth`
deep.  Every two steps take a character, so their number bounds the steps. -/
def entriesOfJson? (depth : Nat) (text : String) : Option Document :=
  match readValue (2 * text.toList.length + 2) depth text.toList with
  | some (doc, rest) => if (skipSpaces rest).isEmpty then some doc else none
  | none => none

/-- Reads a text that is one value. -/
def ofJson? (text : String) : Option Document := (entriesOfJson? maxDepth text).map merged

end Document

end ApiTools
