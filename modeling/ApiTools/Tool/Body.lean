import ApiTools.Text.Blank
import ApiTools.Naming
import ApiTools.Tool

/-!
# Arguments of a request body

The properties of an object body become arguments of their own, nested objects down to eight levels,
so that the names of the arguments alone tell how the body is put together.  A body composed of
branches has the arguments of its own properties and those of each branch, without repeating a
signature.

A schema that reaches itself through references and branches alone has no arguments to show:
`Spec.flatten` then gives none.  Any other schema is done within `Spec.flattenSteps`, because a
chain of branches never meets a value twice.
-/

namespace ApiTools

/-- The trimmed text of a member; empty where it is not a text. -/
def Document.trimmedText (doc : Document) (key : String) : String :=
  Text.trim ((doc.getText? key).getD "")

mutual
/-- The number of nodes of a document. -/
def Document.size : Document → Nat
  | .list items => Document.sizeItems items + 1
  | .object members => Document.sizeMembers members + 1
  | _ => 1

/-- The number of nodes of the items. -/
def Document.sizeItems : List Document → Nat
  | [] => 0
  | item :: rest => item.size + Document.sizeItems rest

/-- The number of nodes of the members. -/
def Document.sizeMembers : List (String × Document) → Nat
  | [] => 0
  | (_, value) :: rest => value.size + Document.sizeMembers rest
end

namespace Spec

/-- How many property names lead to an argument at most. -/
def maxBodyDepth : Nat := 8

/-- The keys whose lists hold the branches of a composed schema. -/
def compositionKeys : List String := ["allOf", "oneOf", "anyOf"]

/-- The branches of a schema, those of `allOf` first. -/
def branches (schema : Document) : List Document :=
  compositionKeys.flatMap fun key => (schema.getItems? key).getD []

/-- The schema without its branches. -/
def withoutBranches : Document → Document
  | .object members => .object (compositionKeys.foldl Members.erase members)
  | schema => schema

/-- Where a schema stands in a body. -/
structure BodyPlace where
  /-- The name of an argument for this place. -/
  name : String
  /-- The property names that lead here. -/
  keys : List String
  /-- Must a value be given here? -/
  required : Bool
  /-- What is said about the place by those that refer to it. -/
  description : String

namespace BodyPlace

/-- The place of a whole body. -/
def root (required : Bool) (description : String) : BodyPlace := ⟨"body", [], required, description⟩

/-- The place of a property.  The root counts as given. -/
def property (place : BodyPlace) (name : String) (required : Bool) : BodyPlace :=
  { name := place.name ++ (if place.keys.isEmpty then "_" else "__") ++ Naming.identifier name
    keys := place.keys ++ [name]
    required := (place.keys.isEmpty || place.required) && required
    description := "" }

/-- The place with what its schema says about it. -/
def describe (place : BodyPlace) (schema : Document) : BodyPlace :=
  match schema.trimmedText "description" with
  | "" => place
  | description => { place with description }

/-- The argument for the place. -/
def argument (place : BodyPlace) (hint : TypeHint) : Argument :=
  { name := place.name
    hint
    default? := if place.required then none else some "None"
    location := .body
    keys := place.keys
    description := place.description }

end BodyPlace

/-- The arguments with those whose signature is not among them yet. -/
def addArguments (known more : List Argument) : List Argument :=
  more.foldl (fun known a =>
    if known.any (·.signature = a.signature) then known else known ++ [a]) known

/-- Is it declared an object, or has it properties? -/
def isObjectSchema (schema : Document) : Bool :=
  schemaType? schema == some "object" || schema.has "properties"

/-- The names that a schema requires. -/
def requiredNames (schema : Document) : List String :=
  ((schema.getItems? "required").getD []).filterMap Document.text?

/-- The type hint of a schema without arguments of its own: a list of objects is told apart from
other lists. -/
def leafHint (spec : Spec) (schema : Document) : TypeHint :=
  let isObjectList :=
    schemaType? schema == some "array" && !schema.has "enum"
      && ((schema.get? "items").map (isObjectSchema ∘ spec.resolveSchema)).getD false
  if isObjectList then .list .dict else spec.typeHint schema

/-- The arguments of a schema at a place, found within the given number of steps. -/
def flattenWithin (spec : Spec) : (steps : Nat) → Document → BodyPlace → Option (List Argument)
  | 0, _, _ => none
  | steps + 1, schema, place =>
    let schema := spec.resolve schema
    let place := place.describe schema
    let parts := branches schema
    if !parts.isEmpty && !schema.has "enum" then do
      let own ←
        if schema.has "properties" then flattenWithin spec steps (withoutBranches schema) place
        else some []
      let found ← parts.mapM (flattenWithin spec steps · place)
      return found.foldl addArguments own
    else
      let properties? := schema.getMembers? "properties"
      if (schemaType? schema == some "object" || properties?.isSome) && !schema.has "enum" then
        match properties? with
        | some (first :: rest) =>
          if place.keys.length < maxBodyDepth then do
            let required := requiredNames schema
            let found ← (first :: rest).mapM fun (name, property) =>
              flattenWithin spec steps property (place.property name (required.contains name))
            return found.flatten
          else some [place.argument .dict]
        | _ => some [place.argument .dict]
      else some [place.argument (spec.leafHint schema)]

/-- The number of steps within which a schema is done that does not reach itself: at each of the
nine depths a chain of branches meets every node of the description and of the schema at most
once, with and without its branches. -/
def flattenSteps (spec : Spec) (schema : Document) : Nat :=
  (maxBodyDepth + 1) * (2 * (spec.root.size + schema.size) + 2)

/-- The arguments of a schema at a place. -/
def flatten (spec : Spec) (schema : Document) (place : BodyPlace) : Option (List Argument) :=
  spec.flattenWithin (spec.flattenSteps schema) schema place

end Spec

end ApiTools
