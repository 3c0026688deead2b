import ApiTools.Document.Json
import ApiTools.Spec.Schema

/-!
# Type hints

`TypeHint` is the grammar of the type hints that are written into a generated package, and
`typeHint` maps a schema to one.  An enumeration becomes a choice of literals whatever type is
declared; an object is an unrestricted dictionary.
-/

namespace ApiTools

/-- A literal of the generated language. -/
inductive Literal where
  | none
  | bool (value : Bool)
  | number (value : Number)
  | text (value : String)
  deriving DecidableEq, Repr

namespace Literal

/-- The literal of a document value.  A list or an object becomes its JSON text. -/
def ofDocument : Document → Literal
  | .null => none
  | .bool b => bool b
  | .number n => number n
  | .text s => text s
  | doc => text doc.compact

/-- The text of the literal. -/
def render : Literal → String
  | none => "None"
  | bool true => "True"
  | bool false => "False"
  | number n => n.json
  | text s => Text.Quoted.encode s

end Literal

/-- The type hint of an argument or a field. -/
inductive TypeHint where
  | int
  | float
  | bool
  | str
  | any
  /-- A dictionary with texts as keys and anything as values. -/
  | dict
  | list (item : TypeHint)
  /-- One of the given values. -/
  | literal (values : List Literal)
  deriving DecidableEq, Repr

namespace TypeHint

/-- The text of the type hint. -/
def render : TypeHint → String
  | int => "int"
  | float => "float"
  | bool => "bool"
  | str => "str"
  | any => "Any"
  | dict => "Dict[str, Any]"
  | list item => "List[" ++ render item ++ "]"
  | literal values => "Literal[" ++ Text.join ", " (values.map Literal.render) ++ "]"

/-- The type hint that stands for the type hints of alternatives: the one that they all share,
a text where there are none, and anything otherwise. -/
def common : List TypeHint → TypeHint
  | [] => str
  | first :: rest => if rest.all (· = first) then first else any

end TypeHint

namespace Spec

/-- How deep type hints are looked up inside items and alternatives. -/
def maxNesting : Nat := 16

/-- The alternatives of a schema: the branches of `oneOf`, or of `anyOf` where that is missing. -/
def alternatives? (schema : Document) : Option (List Document) :=
  ((schema.get? "oneOf").orElse fun _ => schema.get? "anyOf").bind Document.items?

/-- The type hint of a schema, `levels` deep: beyond that anything goes. -/
def typeHintWithin (spec : Spec) : (levels : Nat) → Document → TypeHint
  | 0, _ => .any
  | levels + 1, schema =>
    let schema := spec.resolveSchema schema
    match schema.getItems? "enum" with
    | some (value :: values) => .literal ((value :: values).map Literal.ofDocument)
    | _ =>
      match schemaType? schema with
      | some "integer" => .int
      | some "number" => .float
      | some "boolean" => .bool
      | some "string" => .str
      | some "array" =>
        .list (((schema.get? "items").map (typeHintWithin spec levels)).getD .any)
      | some "object" => .dict
      | _ =>
        if schema.has "properties" then .dict
        else
          match alternatives? schema with
          | none => .str
          | some branches =>
            TypeHint.common
              ((branches.filter (schemaType? · ≠ some "null")).map (typeHintWithin spec levels))

/-- The type hint of a schema. -/
def typeHint (spec : Spec) (schema : Document) : TypeHint :=
  spec.typeHintWithin (maxNesting + 1) schema

end Spec

end ApiTools
