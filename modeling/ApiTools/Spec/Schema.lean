import ApiTools.Document.Same
import ApiTools.Spec.Reference

/-!
# Schemas with their branches merged

`Spec.resolveSchema` follows references and merges the branches of `allOf` into one schema: the
first declaration of a property wins, required names are collected without repetition, and a branch
supplies the type, the description, the enumeration and the items where none came before it.
-/

namespace ApiTools.Spec

/-- How deep branches are merged below branches. -/
def maxAllOfDepth : Nat := 32

/-- The merge of a schema with its branches, as far as it has come. -/
structure Merge where
  /-- The members other than `allOf`, `properties` and `required`. -/
  members : Members
  properties : Members
  required : List Document

namespace Merge

/-- The merge before its first branch.  Each of the three members taken out leaves its place to the
last one. -/
def start (members : Members) : Merge :=
  let withoutBranches := Members.eraseSwap members "allOf"
  let withoutProperties := Members.eraseSwap withoutBranches "properties"
  { members := Members.eraseSwap withoutProperties "required"
    properties := ((Members.get? withoutBranches "properties").bind Document.members?).getD []
    required := ((Members.get? withoutProperties "required").bind Document.items?).getD [] }

/-- The names with those of a branch that are not among them yet. -/
def addRequired (required : List Document) (more : List Document) : List Document :=
  more.foldl (fun known name => if known.any (·.same name) then known else known ++ [name]) required

/-- The members that a branch supplies where they are missing. -/
def supplied : List String := ["type", "description", "enum", "items"]

/-- The merge with one more branch, which has been resolved. -/
def add (merge : Merge) (branch : Document) : Merge :=
  { members := supplied.foldl (fun members key =>
      match branch.get? key with
      | some value => Members.setIfAbsent members key value
      | none => members) merge.members
    properties := ((branch.getMembers? "properties").getD []).foldl
      (fun properties entry => Members.setIfAbsent properties entry.1 entry.2) merge.properties
    required := addRequired merge.required ((branch.getItems? "required").getD []) }

/-- The merged schema: an object where no branch says otherwise, if it has properties. -/
def finish (merge : Merge) : Document :=
  let members :=
    if merge.properties.isEmpty then merge.members
    else Members.set (Members.setIfAbsent merge.members "type" (.text "object")) "properties"
      (.object merge.properties)
  .object (if merge.required.isEmpty then members
    else Members.set members "required" (.list merge.required))

end Merge

/-- The schema with its references followed and its branches merged, `levels` deep. -/
def resolveSchemaWithin (spec : Spec) : (levels : Nat) → Document → Document
  | 0, schema => spec.resolve schema
  | levels + 1, schema =>
    let resolved := spec.resolve schema
    match resolved, resolved.getItems? "allOf" with
    | .object members, some branches =>
      let branches := branches.map (resolveSchemaWithin spec levels)
      (branches.foldl Merge.add (Merge.start members)).finish
    | _, _ => resolved

/-- The schema with its references followed and its branches merged. -/
def resolveSchema (spec : Spec) (schema : Document) : Document :=
  spec.resolveSchemaWithin maxAllOfDepth schema

/-- The declared type of a schema: a text, or the first text other than `null` of a list. -/
def schemaType? (schema : Document) : Option String :=
  match schema.get? "type" with
  | some (.text t) => some t
  | some (.list types) => (types.filterMap Document.text?).find? (· ≠ "null")
  | _ => none

end ApiTools.Spec
