import ApiTools.Tool.Body

/-!
# The tool of an operation

`Spec.tool?` turns an operation into a tool.  Path parameters become arguments `path_…`, query
parameters `param_…`, and the properties of the body `body_…`; the arguments that must be given come
first.
-/

namespace ApiTools

/-- What an operation has given for its tool so far. -/
structure ToolParts where
  arguments : List Argument
  formattedPath : String

namespace Spec

/-- The schema that a parameter of format 2.0 implies by its own members. -/
def impliedSchema (parameter : Document) : Document :=
  .object (["type", "format", "enum", "items"].filterMap fun key =>
    (parameter.get? key).map (key, ·))

/-- The schema of a parameter. -/
def parameterSchema (parameter : Document) : Document :=
  (parameter.get? "schema").getD (impliedSchema parameter)

/-- Is the parameter marked as required? -/
def isRequiredParameter (parameter : Document) : Bool :=
  ((parameter.get? "required").bind Document.bool?).getD false

/-- The name as it stands in a path. -/
def placeholder (name : String) : String := "\x7b" ++ name ++ "\x7d"

/-- The argument of a path parameter. -/
def pathArgument (spec : Spec) (name : String) (parameter : Document) : Argument :=
  { name := "path_" ++ Naming.identifier name
    hint := spec.typeHint (parameterSchema parameter)
    default? := none
    location := .path
    keys := [name]
    description := parameter.trimmedText "description" }

/-- The argument of a query parameter.  A flag that may be left out is false then. -/
def queryArgument (spec : Spec) (name : String) (parameter : Document) : Argument :=
  let hint := spec.typeHint (parameterSchema parameter)
  { name := "param_" ++ Naming.identifier name
    hint
    default? :=
      if isRequiredParameter parameter then none
      else some (if hint = .bool then "False" else "None")
    location := .query
    keys := [name]
    description := parameter.trimmedText "description" }

/-- The parts with those of one more parameter. -/
def addToolParameter (spec : Spec) (parts : ToolParts) (parameter : Document) :
    Option ToolParts :=
  match parameter.getText? "name" with
  | none => some parts
  | some name =>
    match parameter.getText? "in" with
    | some "path" =>
      let argument := spec.pathArgument name parameter
      some { arguments := parts.arguments ++ [argument]
             formattedPath := Text.replace parts.formattedPath (placeholder name)
              (placeholder argument.name) }
    | some "query" =>
      some { parts with arguments := parts.arguments ++ [spec.queryArgument name parameter] }
    | some "body" => do
      let found ← spec.flatten (parameterSchema parameter)
        (.root (isRequiredParameter parameter) (parameter.trimmedText "description"))
      return { parts with arguments := parts.arguments ++ found }
    | _ => some parts

/-- The content of a request body that is used: the JSON one, or else the first. -/
def bodyMedia? (content : Members) : Option Document :=
  (Members.get? content "application/json").orElse fun _ => content.head?.map (·.2)

/-- The schema of a request body. -/
def bodySchema? (body : Document) : Option Document :=
  ((body.getMembers? "content").bind bodyMedia?).bind (·.get? "schema")

/-- The arguments of the request body of an operation. -/
def bodyArguments (spec : Spec) (op : Operation) : Option (List Argument) :=
  match op.requestBody? with
  | none => some []
  | some body =>
    let body := spec.resolve body
    match bodySchema? body with
    | none => some []
    | some schema =>
      spec.flatten schema (.root (isRequiredParameter body) (body.trimmedText "description"))

/-- The name of the function for an operation: made from its identifier, or from method and path
where it has none. -/
def toolName (op : Operation) : String :=
  match op.operationId? with
  | some id =>
    if Text.isBlankText id then op.method.name ++ "_" ++ Naming.moduleName op.path
    else Naming.functionName id
  | none => op.method.name ++ "_" ++ Naming.moduleName op.path

/-- The arguments with those that must be given first. -/
def requiredFirst (arguments : List Argument) : List Argument :=
  arguments.filter Argument.isRequired ++ arguments.filter (!·.isRequired)

/-- The tool of an operation; there is none where a body schema reaches itself through references
and branches alone. -/
def tool? (spec : Spec) (op : Operation) : Option Tool := do
  let parts ← (spec.mergedParameters op).foldlM spec.addToolParameter ⟨[], op.path⟩
  let body ← spec.bodyArguments op
  let name := toolName op
  return { operationId := op.operationId?.getD name
           name
           method := op.method
           httpPath := op.path
           formattedPath := parts.formattedPath
           arguments := requiredFirst (parts.arguments ++ body)
           summary := Text.trim (op.summary?.getD "")
           description := Text.trim (op.description?.getD "") }

/-- The tools of all operations, in order. -/
def tools? (spec : Spec) : Option (List Tool) := spec.operations.mapM spec.tool?

end Spec

end ApiTools
