import ApiTools.Document.Json
import ApiTools.Yaml.Value

/-!
# Records in documents

Settings, overlays and prompts are records that are read from JSON and from YAML.  `Source` says how
a value of either is taken as a text, a flag, a number, a list or a record; the readers of the
fields of a record refuse a field that is given twice and a value of the wrong kind.
-/

namespace ApiTools

/-- Values from which records are read. -/
class Source (α : Type) where
  /-- The value as a text. -/
  text? : α → Option String
  /-- The value as a truth value. -/
  flag? : α → Option Bool
  /-- The value as an unsigned integer of 64 bits. -/
  natural? : α → Option Nat
  /-- Is anything given?  There is no answer where the value contradicts itself. -/
  given? : α → Option Bool
  /-- The value as a document. -/
  document? : α → Option Document
  /-- The value as a list. -/
  items? : α → Option (List α)
  /-- The value as a record with the given field names, in the order of its declaration. -/
  fields? : List String → α → Option (List (String × α))

namespace Record

/-- A list as a record: the values of the first fields, in order. -/
def positional {α : Type} (names : List String) (items : List α) : Option (List (String × α)) :=
  if names.length < items.length then none else some (names.zip items)

/-- In JSON a record is an object, or a list of the values of its fields. -/
instance : Source Document where
  text? := Document.text?
  flag? := Document.bool?
  natural? doc := doc.number?.bind Number.natural?
  given? doc := some (!doc.isNull)
  document? doc := some doc.merged
  items? := Document.items?
  fields? names doc :=
    match doc with
    | .object members => some members
    | .list items => positional names items
    | _ => none

end Record

namespace Yaml.Node

/-- The scalar that stands for a plain value of a kind: a plain one, or a block scalar with the tag
of the kind. -/
def plainText? (kind : String) (node : Node) : Option String :=
  match node.target with
  | .scalar style tag? s =>
    if style = .plain || (style = .literal && tag? = some (standardTag kind)) then some s else none
  | _ => none

/-- Is it a plain scalar without text? -/
def isBlank (node : Node) : Bool :=
  match node.target with
  | .scalar .plain _ s => s.isEmpty
  | .nothing => true
  | _ => false

/-- Is anything given?  Null is nothing. -/
def given? (node : Node) : Option Bool :=
  match node.target with
  | .scalar .plain tag? s =>
    if tag? = some (standardTag "null") then if Plain.isNull s then some false else none
    else if tag?.isSome then some true
    else some (!s.isEmpty && !Plain.isNull s)
  | .nothing => some false
  | .endless => none
  | _ => some true

/-- The items of a list. -/
def items? (node : Node) : Option (List Node) :=
  match node.target with
  | .list _ items => some items
  | _ => if node.isBlank then some [] else none

/-- The entries of a mapping whose keys are scalars. -/
def fields? (node : Node) : Option (List (String × Node)) :=
  match node.target with
  | .mapping _ entries => entries.mapM fun (key, value) => key.scalarText?.map (·, value)
  | _ => if node.isBlank then some [] else none

/-- In YAML every scalar is a text where a text is wanted, and only plain ones are flags and
numbers. -/
instance : Source Node where
  text? := scalarText?
  flag? node := (node.plainText? "bool").bind Plain.bool?
  natural? node := (node.plainText? "int").bind fun s =>
    (Plain.natural? s.toList).bind fun n => if n < Nat.pow 2 64 then some n else none
  given? := given?
  document? := toDocument?
  items? := items?
  fields? _ := fields?

end Yaml.Node

namespace Record

variable {α β : Type}

/-- The value of a field, where it is there; it must not be there twice. -/
def field? (fields : List (String × α)) (name : String) : Option (Option α) :=
  match fields.filter (·.1 = name) with
  | [] => some none
  | [(_, value)] => some (some value)
  | _ => none

/-- Reads a field that must be there. -/
def required (fields : List (String × α)) (name : String) (read : α → Option β) : Option β :=
  (field? fields name).bind fun value => value.bind read

/-- Reads a field that has a default. -/
def withDefault (fields : List (String × α)) (name : String) (default : β) (read : α → Option β) :
    Option β :=
  (field? fields name).bind fun
    | some value => read value
    | none => some default

/-- Reads a field that may be missing or given as null. -/
def optional [Source α] (fields : List (String × α)) (name : String) (read : α → Option β) :
    Option (Option β) :=
  (field? fields name).bind fun
    | some value =>
      (Source.given? value).bind fun given => if given then (read value).map some else some none
    | none => some none

/-- Reads a list of texts. -/
def texts? [Source α] (value : α) : Option (List String) :=
  (Source.items? value).bind (·.mapM Source.text?)

/-- Reads an unsigned integer of 16 bits. -/
def port? [Source α] (value : α) : Option Nat :=
  (Source.natural? value).bind fun n => if n < Nat.pow 2 16 then some n else none

end Record

end ApiTools
