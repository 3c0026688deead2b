import ApiTools.Document

/-!
# API descriptions

A `Spec` wraps the document of an API description.  Its operations are the pairs of a path and one
of seven methods below it, paths in the document's order and methods in the order of `Method.all`.
-/

namespace ApiTools

/-- The methods that are recognised as operations. -/
inductive Method where
  | get
  | post
  | put
  | patch
  | delete
  | options
  | head
  deriving DecidableEq, Repr

namespace Method

/-- The methods in the order in which operations are listed. -/
def all : List Method := [get, post, put, patch, delete, options, head]

/-- The key of the method in a path item. -/
def name : Method → String
  | get => "get"
  | post => "post"
  | put => "put"
  | patch => "patch"
  | delete => "delete"
  | options => "options"
  | head => "head"

/-- The method as HTTP writes it. -/
def upper : Method → String
  | get => "GET"
  | post => "POST"
  | put => "PUT"
  | patch => "PATCH"
  | delete => "DELETE"
  | options => "OPTIONS"
  | head => "HEAD"

end Method

/-- An API description. -/
structure Spec where
  /-- The whole document. -/
  root : Document

/-- One operation of an API description. -/
structure Operation where
  /-- The key of its path. -/
  path : String
  method : Method
  /-- The object that describes it. -/
  node : Document
  /-- The path item that holds it. -/
  pathItem : Document

namespace Operation

/-- The identifier, where one is given as a text. -/
def operationId? (op : Operation) : Option String := op.node.getText? "operationId"

/-- The summary, where one is given as a text. -/
def summary? (op : Operation) : Option String := op.node.getText? "summary"

/-- The description, where one is given as a text. -/
def description? (op : Operation) : Option String := op.node.getText? "description"

/-- The parameters of the operation itself, as written. -/
def parameters (op : Operation) : List Document := (op.node.getItems? "parameters").getD []

/-- The request body, as written. -/
def requestBody? (op : Operation) : Option Document := op.node.get? "requestBody"

end Operation

namespace Spec

/-- A text among the general information. -/
def infoText? (spec : Spec) (key : String) : Option String :=
  (spec.root.get? "info").bind (·.getText? key)

/-- The title. -/
def title? (spec : Spec) : Option String := spec.infoText? "title"

/-- The version of the described API. -/
def version? (spec : Spec) : Option String := spec.infoText? "version"

/-- The version of the description's format: the member `openapi`, or `swagger` where that is
missing. -/
def formatVersion? (spec : Spec) : Option String :=
  ((spec.root.get? "openapi").orElse fun _ => spec.root.get? "swagger").bind Document.text?

/-- Does the value mark format 2.0, as a text or as a number? -/
def isVersionTwo : Document → Bool
  | .text s => s == "2.0"
  | .number n => n.toBinary.sameValue (Binary64.ofNat 2)
  | _ => false

/-- Is the description of format 2.0? -/
def isSwagger2 (spec : Spec) : Bool :=
  ((spec.root.get? "swagger").map isVersionTwo).getD false

/-- The first text of a list member. -/
def firstText? (doc : Document) (key : String) : Option String :=
  ((doc.getItems? key).bind List.head?).bind Document.text?

/-- The URL of the server: that of the first entry of `servers`, or the one put together from
scheme, host and base path. -/
def basePath? (spec : Spec) : Option String :=
  match ((spec.root.getItems? "servers").bind List.head?).bind (·.getText? "url") with
  | some url => some url
  | none =>
    (spec.root.getText? "host").map fun host =>
      let scheme := (firstText? spec.root "schemes").getD "https"
      scheme ++ "://" ++ host ++ (spec.root.getText? "basePath").getD ""

/-- The path items. -/
def paths? (spec : Spec) : Option Members := spec.root.getMembers? "paths"

/-- The operations of one path item. -/
def operationsOf (path : String) (item : Document) : List Operation :=
  Method.all.filterMap fun method =>
    match item.get? method.name with
    | some node => if node.isObject then some ⟨path, method, node, item⟩ else none
    | none => none

/-- All operations, in order. -/
def operations (spec : Spec) : List Operation :=
  (spec.paths?.getD []).flatMap fun (path, item) => operationsOf path item

/-- The named schemas: those of `components`, or `definitions` where `components` has none. -/
def schemas? (spec : Spec) : Option Members :=
  (((spec.root.get? "components").bind (·.get? "schemas")).orElse fun _ =>
    spec.root.get? "definitions").bind Document.members?

end Spec

end ApiTools
