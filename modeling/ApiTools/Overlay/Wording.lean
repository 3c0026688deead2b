import ApiTools.Spec.Reference
import ApiTools.Text.Blank
import ApiTools.Text.Case
import ApiTools.Text.Cut

/-!
# Descriptions from rules

What an operation is for shows in its method, in the shape of its path and in its identifier, and
what a parameter is for in its name.  The texts here are written from these alone.
-/

namespace ApiTools

namespace Operation

/-- What the path is about: its last part that is neither empty nor a placeholder. -/
def resource (op : Operation) : String :=
  let parts := (Text.split op.path '/').filter fun part =>
    !part.isEmpty && part.toList.head? != some '\x7b'
  parts.getLast?.getD "resource"

/-- The identifier in small letters, empty where there is none. -/
def lowerId (op : Operation) : String := Text.lowercase (op.operationId?.getD "")

/-- The number of placeholders in the path, as counted by their opening braces. -/
def placeholderCount (op : Operation) : Nat := op.path.toList.count '\x7b'

/-- The summary, where it is not empty. -/
def nonemptySummary? (op : Operation) : Option String :=
  op.summary?.bind fun s => if s.isEmpty then none else some s

/-- What the operation does, in one sentence. -/
def purpose (op : Operation) : String :=
  let id := op.lowerId
  match op.method with
  | .get =>
    if op.placeholderCount = 1 then "Retrieve details of a specific " ++ op.resource
    else if Text.contains id "list" || op.placeholderCount = 0 then
      "List or query " ++ op.resource
    else "Retrieve " ++ op.resource ++ " information"
  | .post =>
    if Text.contains id "create" then "Create a new " ++ op.resource
    else if Text.containsAny id ["search", "query"] then "Search or query " ++ op.resource
    else "Perform an operation on " ++ op.resource
  | .put => "Update or replace a " ++ op.resource
  | .patch => "Partially update a " ++ op.resource
  | .delete => "Delete a " ++ op.resource
  | method =>
    op.nonemptySummary?.getD
      ("Perform " ++ method.upper ++ " operation on " ++ op.path)

/-- The scenarios in which an operation is called, in groups, each with the condition under which it
applies. -/
def scenarios (op : Operation) : List (Bool × List String) :=
  let id := op.lowerId
  let mentions (word : String) : Bool := Text.contains op.path word || Text.contains id word
  [(Text.contains id "list" && op.method = .get,
      ["When you need to discover available resources or check what exists",
        "To monitor or audit resource states across the system"]),
    (Text.contains id "get" && Text.contains op.path "\x7b",
      ["When you have a specific resource identifier and need its current details",
        "To verify the state or configuration of a particular resource"]),
    (Text.contains id "create" || op.method = .post,
      ["When initializing new resources based on user requirements",
        "To provision resources as part of a workflow or automation"]),
    (Text.contains id "update" || op.method = .put || op.method = .patch,
      ["When modifying existing resource configurations or properties",
        "To fix issues or adjust settings based on changing requirements"]),
    (Text.contains id "delete" || op.method = .delete,
      ["When cleaning up resources that are no longer needed",
        "To remove failed or obsolete resources"]),
    (mentions "log",
      ["For debugging issues or understanding resource behavior",
        "When investigating errors or tracking execution history"]),
    (mentions "status",
      ["To check the health or state of resources",
        "When monitoring progress or waiting for operations to complete"])]

/-- Up to three scenarios in which the operation is called. -/
def useCases (op : Operation) : List String :=
  (op.scenarios.flatMap fun (applies, cases) => if applies then cases else []).take 3

end Operation

namespace Document

/-- Is the flag `required` of a parameter set? -/
def isMarkedRequired (parameter : Document) : Bool :=
  ((parameter.get? "required").bind bool?).getD false

/-- The type that a parameter declares, itself or in its schema. -/
def declaredType (parameter : Document) : String :=
  match parameter.getText? "type" with
  | some type => type
  | none => ((parameter.get? "schema").bind (·.getText? "type")).getD "string"

end Document

namespace Wording

/-- The greatest length of an operation's description. -/
def maxLength : Nat := 300

/-- The names of the parameters that must be given. -/
def requiredNames (spec : Spec) (op : Operation) : List String :=
  ((op.parameters.map spec.resolve).filter Document.isMarkedRequired).map fun parameter =>
    (parameter.getText? "name").getD "unknown"

/-- The description of an operation: its purpose, when to use it, and up to three names of
parameters that must be given. -/
def operation (spec : Spec) (addUseCases : Bool) (op : Operation) : String :=
  let useCase :=
    if addUseCases then
      (op.useCases.head?.map fun first => " Use when: " ++ Text.lowercase first).getD ""
    else ""
  let names := requiredNames spec op
  let required :=
    if names.isEmpty || 3 < names.length then "" else ". Required: " ++ Text.join ", " names
  Text.cutMarked (op.purpose ++ useCase ++ required) maxLength

/-- The description that the name of a parameter, in small letters, suggests. -/
def suggested? (name : String) : Option String :=
  if Text.containsAny name ["namespace", "ns"] then
    some "Kubernetes namespace to scope the operation"
  else if Text.containsAny name ["limit", "max"] then some "Maximum number of results to return"
  else if Text.containsAny name ["offset", "skip", "continue"] then
    some "Pagination token or offset for retrieving more results"
  else if Text.containsAny name ["selector", "filter"] then
    some "Filter to narrow results based on labels or fields"
  else if Text.contains name "name" && !Text.contains name "prefix" then
    some "Name of the resource to operate on"
  else none

/-- The description of a parameter: its own, else the one that its name suggests, else its type. -/
def parameter (addGuidance : Bool) (parameter : Document) : String :=
  let own := Text.collapse ((parameter.getText? "description").getD "")
  if !own.isEmpty then own
  else
    let name := Text.lowercase ((parameter.getText? "name").getD "")
    let suggestion? := if addGuidance then suggested? name else none
    suggestion?.getD
      ((if parameter.isMarkedRequired then "Required " else "Optional ")
        ++ parameter.declaredType ++ " parameter")

end Wording

end ApiTools
