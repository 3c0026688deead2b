import ApiTools.Yaml.Cursor
import ApiTools.Yaml.Token
import ApiTools.Text.Quoted

/-!
# Reading YAML names, tags and directives

Anchors and aliases have names of letters, digits, underscores and hyphens.  A tag is a handle and a
suffix, or a whole address between angle brackets.  A directive is a line at the beginning of a
document.
-/

namespace ApiTools.Yaml

/-- May the character stand after the name of an anchor or an alias? -/
def endsName (cs : List Char) : Bool :=
  atGap cs || (cs.head?.map fun c =>
    c == '?' || c == ':' || c == ',' || c == ']' || c == '\x7d' || c == '%' || c == '@'
      || c == '\x60').getD false

/-- Reads the name of an anchor or an alias after its mark. -/
def readName (cur : Cursor) : Option (String × Cursor) :=
  let name := cur.rest.takeWhile isNameChar
  let cur := cur.skipMany name.length
  if name.isEmpty || !endsName cur.rest then none else some (String.ofList name, cur)

/-- May the character stand in an address?  Commas and brackets may only between angle brackets. -/
def isAddressChar (bracketed : Bool) (c : Char) : Bool :=
  isNameChar c || ";/?:@&=+$.%!~*'()".toList.contains c || (bracketed && ",[]".toList.contains c)

/-- The number of bytes of a character whose first byte is given. -/
def byteCount? (first : Nat) : Option Nat :=
  if first < 0x80 then some 1
  else if 0xC0 ≤ first && first < 0xE0 then some 2
  else if 0xE0 ≤ first && first < 0xF0 then some 3
  else if 0xF0 ≤ first && first < 0xF8 then some 4
  else none

/-- Reads one byte written as a percent sign and two hexadecimal digits. -/
def readByte : List Char → Option (Nat × List Char)
  | '%' :: a :: b :: rest => (hexPair a b).map (·, rest)
  | _ => none
where
  /-- The value of two hexadecimal digits. -/
  hexPair (a b : Char) : Option Nat := do
    return (← Text.Quoted.hexValue? a) * 16 + (← Text.Quoted.hexValue? b)

/-- Reads the given number of bytes that continue a character. -/
def readContinuation : (count : Nat) → List Char → Option (List Nat × List Char)
  | 0, cs => some ([], cs)
  | count + 1, cs => do
    let (byte, cs) ← readByte cs
    if byte / 64 = 2 then
      let (bytes, cs) ← readContinuation count cs
      return (byte :: bytes, cs)
    else none

/-- Reads a character written byte by byte. -/
def readEscapedChar (cs : List Char) : Option (Char × List Char) := do
  let (first, cs) ← readByte cs
  let count ← byteCount? first
  let (bytes, cs) ← readContinuation (count - 1) cs
  let text ← String.fromUTF8? ⟨((first :: bytes).map UInt8.ofNat).toArray⟩
  let c ← text.toList.head?
  return (c, cs)

/-- Reads an address, where `done` holds the characters already read, in reverse. -/
def readAddress (bracketed : Bool) : (fuel : Nat) → List Char → List Char →
    Option (List Char × List Char)
  | 0, done, cs => some (done.reverse, cs)
  | fuel + 1, done, cs =>
    match cs with
    | [] => some (done.reverse, [])
    | c :: rest =>
      if c = '%' then
        match readEscapedChar cs with
        | some (c, rest) => readAddress bracketed fuel (c :: done) rest
        | none => none
      else if isAddressChar bracketed c then readAddress bracketed fuel (c :: done) rest
      else some (done.reverse, cs)

/-- The place in the same line with the given text to come. -/
def Cursor.to (cur : Cursor) (rest : List Char) : Cursor :=
  cur.skipMany (cur.rest.length - rest.length)

/-- Reads an address that goes on after the characters of `head`. -/
def readAddressAfter (bracketed : Bool) (head : List Char) (cur : Cursor) :
    Option (String × Cursor) :=
  match readAddress bracketed cur.rest.length [] cur.rest with
  | some (address, rest) => some (String.ofList (head ++ address), cur.to rest)
  | none => none

/-- Reads a handle: an exclamation mark, and a name with another one after it where there is one. -/
def readHandle (cur : Cursor) : Option (List Char × Cursor) :=
  match cur.rest with
  | '!' :: rest =>
    let name := rest.takeWhile isNameChar
    match rest.drop name.length with
    | '!' :: _ => some ('!' :: name ++ ['!'], cur.skipMany (name.length + 2))
    | _ => some ('!' :: name, cur.skipMany (name.length + 1))
  | _ => none

/-- Is it a handle with a mark at both ends? -/
def isNamedHandle (handle : List Char) : Bool := 1 < handle.length && handle.getLast? = some '!'

/-- Reads a tag: between angle brackets, with a handle, or an exclamation mark alone. -/
def readTag (cur : Cursor) : Option (Token × Cursor) :=
  match cur.rest with
  | '!' :: '<' :: _ =>
    match readAddressAfter true [] (cur.skipMany 2) with
    | some (address, cur) =>
      if address.isEmpty || !startsWith '>' cur.rest then none
      else some (.tag "" address, cur.skip)
    | none => none
  | _ =>
    match readHandle cur with
    | none => none
    | some (handle, cur) =>
      if isNamedHandle handle then
        match readAddressAfter false [] cur with
        | some (suffix, cur) =>
          if suffix.isEmpty then none else some (.tag (String.ofList handle) suffix, cur)
        | none => none
      else
        match readAddressAfter false handle.tail cur with
        | some (suffix, cur) =>
          if suffix.isEmpty then some (.tag "" "!", cur) else some (.tag "!" suffix, cur)
        | none => none

/-- Reads a tag that ends where a tag may end. -/
def readTagToken (inFlow : Bool) (cur : Cursor) : Option (Token × Cursor) :=
  match readTag cur with
  | some (token, cur) =>
    if atGap cur.rest || (inFlow && startsWith ',' cur.rest) then some (token, cur) else none
  | none => none

/-- Reads a number of a version: at most nine digits. -/
def readVersionNumber (cur : Cursor) : Option (Nat × Cursor) :=
  let digits := cur.rest.takeWhile fun c => 48 ≤ c.toNat && c.toNat ≤ 57
  if digits.isEmpty || 9 < digits.length then none
  else some (digits.foldl (fun n c => n * 10 + (c.toNat - 48)) 0, cur.skipMany digits.length)

/-- Reads the value of a version directive. -/
def readVersion (cur : Cursor) : Option (Token × Cursor) := do
  let (major, cur) ← readVersionNumber (cur.skipWhile isSpaceOrTab)
  if startsWith '.' cur.rest then
    let (minor, cur) ← readVersionNumber cur.skip
    return (.versionDirective major minor, cur)
  else none

/-- Reads the value of a tag directive. -/
def readTagDirective (cur : Cursor) : Option (Token × Cursor) := do
  let (handle, cur) ← readHandle (cur.skipWhile isSpaceOrTab)
  if (handle ≠ ['!'] && !isNamedHandle handle)
      || !(cur.rest.head?.map isSpaceOrTab).getD false then none
  else
    let (address, cur) ← readAddressAfter true [] (cur.skipWhile isSpaceOrTab)
    if address.isEmpty || !atGap cur.rest then none
    else return (.tagDirective (String.ofList handle) address, cur)

/-- Reads a directive after its percent sign, and the rest of its line. -/
def readDirective (cur : Cursor) : Option (Token × Cursor) := do
  let name := String.ofList (cur.rest.takeWhile isNameChar)
  let after := cur.skipMany name.length
  if name.isEmpty || !atGap after.rest then none
  else
    let (token, cur) ←
      if name = "YAML" then readVersion after
      else if name = "TAG" then readTagDirective after
      else none
    let cur := cur.skipWhile isSpaceOrTab
    let cur := if startsWith '#' cur.rest then cur.skipWhile (!isBreak ·) else cur
    if atLineEnd cur.rest then return (token, if cur.rest.isEmpty then cur else cur.skipBreak)
    else none

end ApiTools.Yaml
