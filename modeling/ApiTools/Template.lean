import ApiTools.Document.Json
import ApiTools.Text.Cut

/-!
# Templates

A template is a text with places that are filled from a document.  A value that is asked for must be
there; in a condition a missing value counts as false.  `Template.render?` gives the text, or
nothing where a value is missing or a list is wanted where there is none.
-/

namespace ApiTools

/-- How a value is changed before it is written. -/
inductive Filter where
  /-- As a quoted text. -/
  | quoted
  /-- As a text inside of triple quotes. -/
  | docstring
  deriving DecidableEq, Repr

/-- What a choice depends on. -/
inductive Condition where
  /-- The value is there, and it is neither false, null, zero nor empty. -/
  | holds (path : List String)
  /-- The value is there. -/
  | isDefined (path : List String)
  /-- The item is not the last one of the innermost list that is gone through. -/
  | notLast
  deriving DecidableEq, Repr

/-- A part of a template. -/
inductive Part where
  | text (s : String)
  /-- The value at a path. -/
  | value (path : List String) (filter? : Option Filter)
  /-- One of two lists of parts. -/
  | choice (condition : Condition) (yes no : List Part)
  /-- The parts for each item of the list at a path; in them the item goes by the given name. -/
  | each (item : String) (path : List String) (body : List Part)
  deriving Repr

namespace Part

/-- Whole lines. -/
def lines (texts : List String) : Part := .text (String.join (texts.map (· ++ "\n")))

/-- The value at a path as it is. -/
def plain (path : List String) : Part := .value path none

/-- The value at a path as a quoted text. -/
def quoted (path : List String) : Part := .value path (some .quoted)

/-- The value at a path as a text inside of triple quotes. -/
def docstring (path : List String) : Part := .value path (some .docstring)

/-- The parts where the condition holds. -/
def when (condition : Condition) (parts : List Part) : Part := .choice condition parts []

end Part

/-- A template. -/
abbrev Template := List Part

/-- An item of a list that is gone through. -/
structure LoopItem where
  name : String
  value : Document
  isLast : Bool

/-- What the names in a template stand for. -/
structure Scope where
  /-- The items, the innermost first. -/
  items : List LoopItem
  /-- The values for the whole template. -/
  globals : Members

namespace Scope

/-- The value that the names lead to, one object after another. -/
def along? (doc : Document) (names : List String) : Option Document :=
  names.foldlM Document.get? doc

/-- The value at a path.  An item in which the rest of the path leads nowhere is passed over. -/
def find? (scope : Scope) : List String → Option Document
  | [] => none
  | name :: rest =>
    let local? := scope.items.findSome? fun item =>
      if item.name = name then along? item.value rest else none
    local?.orElse fun _ => (scope.globals.get? name).bind (along? · rest)

/-- The scope of an item. -/
def enter (scope : Scope) (item : LoopItem) : Scope := { scope with items := item :: scope.items }

end Scope

/-! ### Values in texts -/

namespace Document

mutual
/-- The value as it stands in a template's text. -/
def shownChars : Document → List Char
  | .null => []
  | .bool true => "true".toList
  | .bool false => "false".toList
  | .number (.int i) => (intText i).toList
  | .number (.float x) => (plainNumber.write x).toList
  | .text s => s.toList
  | .list items => '[' :: shownItems items ++ [']']
  | .object _ => "[object]".toList

/-- The items of a list, with commas between them. -/
def shownItems : List Document → List Char
  | [] => []
  | [item] => shownChars item
  | item :: rest => shownChars item ++ ',' :: ' ' :: shownItems rest
end

/-- Does the value count as true? -/
def isTruthy : Document → Bool
  | .null => false
  | .bool b => b
  | .number n =>
    match n.toBinary with
    | .finite _ mantissa _ => mantissa ≠ 0
    | .infinite _ => true
    | .nan => false
  | .text s => !s.isEmpty
  | .list items => !items.isEmpty
  | .object members => !members.isEmpty

end Document

/-- The text with backslashes doubled, and with a backslash before each of three quotes that follow
one another, so that it can stand inside of triple quotes. -/
def docstringText (s : String) : String :=
  Text.replace (Text.replace s "\\" "\\\\") "\"\"\"" "\\\"\\\"\\\""

namespace Filter

/-- The value as the filter writes it. -/
def apply : Filter → Document → String
  | quoted, .text s => Text.Quoted.encode s
  | quoted, doc => Text.Quoted.encode doc.compact
  | docstring, .text s => docstringText s
  | docstring, _ => ""

end Filter

/-! ### Filling in -/

/-- Does the condition hold? -/
def Condition.test (scope : Scope) : Condition → Bool
  | holds path => ((scope.find? path).map Document.isTruthy).getD false
  | isDefined path => (scope.find? path).isSome
  | notLast => !((scope.items.head?.map LoopItem.isLast).getD false)

/-- The characters of a text, where a carriage return and the line feed after it are one. -/
def visibleChars : List Char → List String
  | '\r' :: '\n' :: rest => "\r\n" :: visibleChars rest
  | c :: rest => String.singleton c :: visibleChars rest
  | [] => []

/-- The values that are gone through: the items of a list, or the characters of a text. -/
def Document.eachOf? : Document → Option (List Document)
  | .list items => some items
  | .text s => some ((visibleChars s.toList).map .text)
  | _ => none

/-- The values with a mark on the last one. -/
def markLast : List Document → List (Document × Bool)
  | [] => []
  | [item] => [(item, true)]
  | item :: rest => (item, false) :: markLast rest

mutual
/-- The text of a part. -/
def Part.chars? (scope : Scope) : Part → Option (List Char)
  | .text s => some s.toList
  | .value path filter? =>
    (scope.find? path).map fun value =>
      match filter? with
      | some filter => (filter.apply value).toList
      | none => value.shownChars
  | .choice condition yes no =>
    if condition.test scope then partsChars? scope yes else partsChars? scope no
  | .each item path body =>
    ((scope.find? path).bind Document.eachOf?).bind fun values =>
      ((markLast values).mapM fun (value, isLast) =>
        partsChars? (scope.enter ⟨item, value, isLast⟩) body).map List.flatten

/-- The texts of parts, one after another. -/
def partsChars? (scope : Scope) : List Part → Option (List Char)
  | [] => some []
  | part :: rest => do
    let first ← part.chars? scope
    let more ← partsChars? scope rest
    return first ++ more
end

namespace Template

/-- The text of a template, filled in from the given values. -/
def render? (template : Template) (globals : Members) : Option String :=
  (partsChars? ⟨[], globals⟩ template).map String.ofList

end Template

end ApiTools
