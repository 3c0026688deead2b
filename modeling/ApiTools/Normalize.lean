import ApiTools.Spec
import ApiTools.Text.Case
import ApiTools.Text.Cut

/-!
# Normal form of API descriptions

`normalize` turns a description of format 2.0 into one of format 3.0, drops body parameters of the
older kind, and gives every parameter without a schema one whose type its name suggests.  Other
parts of the document stay as they are.
-/

namespace ApiTools

/-- What a normalization changed. -/
structure NormalizationStats where
  convertedSwagger : Bool
  parametersFixed : Nat
  bodyParametersConverted : Nat
  deriving DecidableEq, Repr

/-- The number of changes to parameters. -/
def NormalizationStats.totalFixes (stats : NormalizationStats) : Nat :=
  stats.parametersFixed + stats.bodyParametersConverted

namespace Normalize

/-- Names that contain one of these belong to whole numbers. -/
def integerHints : List String :=
  ["limit", "timeout", "seconds", "nanos", "period", "retries", "count", "size", "port", "lines",
    "bytes"]

/-- Names that contain one of these belong to flags. -/
def booleanHints : List String :=
  ["watch", "follow", "previous", "timestamps", "orphan", "force", "enabled", "allow", "skip",
    "insecure", "stream"]

/-- The type that a parameter's name in lowercase suggests. -/
def inferType (name : String) : String :=
  if Text.containsAny name integerHints then "integer"
  else if Text.containsAny name booleanHints then "boolean"
  else "string"

/-- The URL of the server that a description of format 2.0 names. -/
def serverUrl (members : Members) : String :=
  let scheme := (Spec.firstText? (.object members) "schemes").getD "https"
  let host := ((Members.get? members "host").bind Document.text?).getD "localhost"
  scheme ++ "://" ++ host ++ ((Members.get? members "basePath").bind Document.text?).getD ""

/-- The members that format 3.0 does not know at the root. -/
def obsoleteRoot : List String := ["swagger", "basePath", "schemes", "host"]

/-- The root of a description of format 2.0 as one of format 3.0. -/
def convertRoot (members : Members) : Members :=
  let converted := obsoleteRoot.foldl Members.erase (Members.set members "openapi" (.text "3.0.0"))
  let hasServers := !(((Members.get? converted "servers").bind Document.items?).getD []).isEmpty
  if hasServers then converted
  else Members.set converted "servers" (.list [.object [("url", .text (serverUrl members))]])

/-- The description as one of format 3.0, and whether it had to be converted. -/
def convertSwagger2 (doc : Document) : Document × Bool :=
  match doc with
  | .object members =>
    if Spec.isSwagger2 ⟨doc⟩ then (.object (convertRoot members), true) else (doc, false)
  | _ => (doc, false)

/-- Is it a body parameter of the older kind? -/
def isBodyParameter (parameter : Document) : Bool := parameter.getText? "in" == some "body"

/-- Does a parameter lack a schema that it should have? -/
def lacksSchema (members : Members) : Bool :=
  !Members.has members "$ref" && !Members.has members "schema" && !Members.has members "content"
    && (Members.get? members "in").bind Document.text? != some "cookie"

/-- The schema that the name of a parameter suggests. -/
def suggestedSchema (members : Members) : Document :=
  let name := ((Members.get? members "name").bind Document.text?).getD ""
  .object [("type", .text (inferType (Text.lowercase name)))]

/-- The parameter with a schema, and whether it had none. -/
def fixParameter (parameter : Document) : Document × Bool :=
  match parameter with
  | .object members =>
    if lacksSchema members then
      let withSchema := Members.set members "schema" (suggestedSchema members)
      (.object (Members.erase withSchema "type"), true)
    else (parameter, false)
  | _ => (parameter, false)

/-- Counts of changes to parameters: schemas added, and body parameters dropped. -/
structure ParameterCounts where
  fixed : Nat
  dropped : Nat

/-- The sum of two counts. -/
def ParameterCounts.add (a b : ParameterCounts) : ParameterCounts :=
  ⟨a.fixed + b.fixed, a.dropped + b.dropped⟩

/-- The parameters of an operation in normal form. -/
def fixParameters (parameters : List Document) : List Document × ParameterCounts :=
  let kept := parameters.filter (!isBodyParameter ·)
  let fixed := kept.map fixParameter
  (fixed.map (·.1), ⟨(fixed.filter (·.2)).length, parameters.length - kept.length⟩)

/-- The operation with its parameters in normal form. -/
def fixOperation (operation : Document) : Document × ParameterCounts :=
  match operation, operation.getItems? "parameters" with
  | .object members, some parameters =>
    let (parameters, counts) := fixParameters parameters
    (.object (Members.set members "parameters" (.list parameters)), counts)
  | _, _ => (operation, ⟨0, 0⟩)

/-- The path item with the operation of a method in normal form. -/
def fixMethod (state : Document × ParameterCounts) (method : Method) : Document × ParameterCounts :=
  match state.1, state.1.get? method.name with
  | .object members, some operation =>
    let (operation, counts) := fixOperation operation
    (.object (Members.set members method.name operation), state.2.add counts)
  | _, _ => state

/-- The path item with all its operations in normal form. -/
def fixItem (item : Document) : Document × ParameterCounts :=
  Method.all.foldl fixMethod (item, ⟨0, 0⟩)

/-- The path items with their operations in normal form. -/
def fixItems : Members → Members × ParameterCounts
  | [] => ([], ⟨0, 0⟩)
  | (path, item) :: rest =>
    let (item, counts) := fixItem item
    let (rest, more) := fixItems rest
    ((path, item) :: rest, counts.add more)

end Normalize

/-- The document in normal form, and what was changed. -/
def normalize (doc : Document) : Document × NormalizationStats :=
  let (doc, converted) := Normalize.convertSwagger2 doc
  match doc, doc.getMembers? "paths" with
  | .object members, some paths =>
    let (paths, counts) := Normalize.fixItems paths
    (.object (Members.set members "paths" (.object paths)),
      ⟨converted, counts.fixed, counts.dropped⟩)
  | _, _ => (doc, ⟨converted, 0, 0⟩)

end ApiTools
