import ApiTools.Spec.Parameters
import ApiTools.Tool.TypeHint

/-!
# Tools

A tool is a function of the generated package that performs one operation.  Its arguments name the
part of the request that they go to: the path, the query or the body.
-/

namespace ApiTools

/-- Where an argument goes in the request. -/
inductive Location where
  | path
  | query
  | body
  deriving DecidableEq, Repr

/-- The name of the location. -/
def Location.name : Location → String
  | path => "path"
  | query => "query"
  | body => "body"

/-- One argument of a tool. -/
structure Argument where
  name : String
  hint : TypeHint
  /-- The expression of the default; an argument without one must be given. -/
  default? : Option String
  location : Location
  /-- The names that lead to the value in the request: one for a path or a query parameter, and for
  the body the names of the properties from the root of the body. -/
  keys : List String
  description : String
  deriving DecidableEq, Repr

namespace Argument

/-- Must the argument be given? -/
def isRequired (a : Argument) : Bool := a.default?.isNone

/-- The names that lead to the value, joined by two underscores. -/
def key (a : Argument) : String := Text.join "__" a.keys

/-- The argument as it stands in the function's head. -/
def signature (a : Argument) : String :=
  match a.default? with
  | some default => a.name ++ ": " ++ a.hint.render ++ " = " ++ default
  | none => a.name ++ ": " ++ a.hint.render

end Argument

/-- A function that performs one operation. -/
structure Tool where
  /-- The identifier of the operation, as declared, or the name where none is. -/
  operationId : String
  /-- The name of the function. -/
  name : String
  method : Method
  /-- The path of the operation. -/
  httpPath : String
  /-- The path with the names of arguments for those of parameters. -/
  formattedPath : String
  arguments : List Argument
  summary : String
  description : String

namespace Tool

/-- The signatures of the arguments, in order. -/
def signatures (tool : Tool) : List String := tool.arguments.map Argument.signature

/-- Does an argument go to the body? -/
def hasBody (tool : Tool) : Bool := tool.arguments.any (·.location = .body)

end Tool

end ApiTools
