import ApiTools.Project
import ApiTools.Template.Catalog

/-!
# What templates are filled in from

The values for the template of a module of tools and for that of a model.
-/

namespace ApiTools

namespace Argument

/-- Does the argument stand for the whole body? -/
def isWholeBody (a : Argument) : Bool := a.location = .body && a.key.isEmpty

/-- Does the argument stand for a field of the body? -/
def isBodyField (a : Argument) : Bool := a.location = .body && !a.key.isEmpty

/-- The description of the argument, in one line. -/
def summary (a : Argument) : String :=
  if !Text.isBlankText a.description then Text.collapse a.description
  else
    match a.location with
    | .path => "Path parameter '" ++ a.key ++ "'"
    | .query => "Query parameter '" ++ a.key ++ "'"
    | .body => if a.key.isEmpty then "Request body" else "Request body field '" ++ a.key ++ "'"

/-- The values for the description of the argument. -/
def infoValues (a : Argument) : Document :=
  .object [("name", .text a.name), ("type", .text a.hint.render), ("description", .text a.summary)]

/-- The values for the lines that put an argument into the query.  A flag that may be left out is
sent only when it is set. -/
def queryValues (a : Argument) : Document :=
  .object [("name", .text a.name), ("key", .text a.key), ("is_bool", .bool (a.hint = .bool)),
    ("omit_false", .bool (a.hint = .bool && a.default?.isSome))]

/-- The values for the lines that put an argument into the body. -/
def bodyValues (a : Argument) : Document :=
  .object [("name", .text a.name), ("key", .text a.key)]

end Argument

namespace Tool

/-- The text that tells what the tool does: the description, else the one that was written for it,
else the summary, else method and path. -/
def docstring (tool : Tool) (written? : Option String) : String :=
  ([tool.description, written?.getD "", tool.summary].find? (!Text.isBlankText ·)).getD
    (tool.method.upper ++ " " ++ tool.httpPath)

/-- The values for the definition of the tool. -/
def values (tool : Tool) (written? : Option String) : Document :=
  .object [("name", .text tool.name), ("signature", .text (Text.join ", " tool.signatures)),
    ("docstring", .text (tool.docstring written?)),
    ("params_info", .list (tool.arguments.map Argument.infoValues)),
    ("method", .text tool.method.upper), ("http_path", .text tool.httpPath),
    ("formatted_path", .text tool.formattedPath),
    ("query", .list ((tool.arguments.filter (·.location = .query)).map Argument.queryValues)),
    ("body", .list ((tool.arguments.filter Argument.isBodyField).map Argument.bodyValues)),
    ("root_body", .ofText? ((tool.arguments.find? Argument.isWholeBody).map Argument.name))]

/-- The text of the tool in a list of tools, in one line. -/
def oneLine (tool : Tool) : String :=
  let text := Text.collapse (if tool.summary.isEmpty then tool.description else tool.summary)
  if text.isEmpty then tool.method.upper ++ " " ++ tool.httpPath else text

/-- The tool as an item of a list. -/
def listed (tool : Tool) : String := "- " ++ tool.name ++ ": " ++ tool.oneLine

/-- The values for the tool in the readme. -/
def readmeValues (tool : Tool) : Document :=
  let text := if tool.description.isEmpty then tool.summary else tool.description
  .object [("name", .text tool.name), ("method", .text tool.method.upper),
    ("path", .text tool.httpPath), ("description", .text (Text.collapse text))]

end Tool

namespace Spec

/-- The values for a field of a model. -/
def fieldValues (spec : Spec) (required : List String) (property : String) (schema : Document) :
    Document :=
  let name := Naming.fieldName property
  .object [("name", .text name), ("type", .text (spec.typeHint schema).render),
    ("required", .bool (required.contains property)),
    ("alias", if name = property then .null else .text property),
    ("description", .text (((schema.getText? "description").map Text.collapse).getD ""))]

/-- The values for the model of a schema. -/
def modelValues (spec : Spec) (name : String) (schema : Document) : Document :=
  let schema := spec.resolveSchema schema
  let modelClass := Naming.className name
  let required := ((schema.getItems? "required").getD []).filterMap Document.text?
  let fields := ((schema.getMembers? "properties").getD []).map fun (property, schema) =>
    spec.fieldValues required property schema
  .object [("schema_name", .text name), ("class_name", .text modelClass),
    ("description", .text (((schema.getText? "description").map Text.collapse).getD
      (modelClass ++ " model"))),
    ("fields", .list fields)]

end Spec

end ApiTools
