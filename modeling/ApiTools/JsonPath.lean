import ApiTools.Document.Steps

/-!
# Paths into documents

A path selects nodes of a document segment by segment.  A segment selects children of one node by a
key, a position, a list of keys, or all of them.  `JsonPath.find` gives the steps to every selected
node, in document order.
-/

namespace ApiTools

/-- One segment of a path. -/
inductive Segment where
  | key (name : String)
  | index (position : Nat)
  /-- Several keys, in the order in which they are written. -/
  | keys (names : List String)
  /-- All children. -/
  | wildcard
  deriving DecidableEq, Repr

/-- A path from the root of a document. -/
structure JsonPath where
  segments : List Segment
  deriving DecidableEq, Repr

namespace Segment

/-- The step of a segment that names one location. -/
def step? : Segment → Option Step
  | key name => some (.key name)
  | index i => some (.index i)
  | _ => none

/-- The member with the key, as a selected child. -/
def member? (members : Members) (name : String) : Option (Step × Document) :=
  (Members.get? members name).map (Step.key name, ·)

/-- The item at the position, as a selected child. -/
def item? (items : List Document) (position : Nat) : Option (Step × Document) :=
  items[position]?.map (Step.index position, ·)

/-- The items from a position on, as selected children. -/
def itemsFrom (position : Nat) : List Document → List (Step × Document)
  | [] => []
  | item :: rest => (.index position, item) :: itemsFrom (position + 1) rest

/-- The children of a node that the segment selects, each with its step. -/
def select : Segment → Document → List (Step × Document)
  | key name, .object members => (member? members name).toList
  | key name, .list items => ((positionOfKey? name).bind (item? items)).toList
  | index i, .list items => (item? items i).toList
  | keys names, .object members => names.filterMap (member? members)
  | wildcard, .object members => members.map fun (name, value) => (.key name, value)
  | wildcard, .list items => itemsFrom 0 items
  | _, _ => []

/-- The segment as it is displayed. -/
def display : Segment → String
  | key name => "['" ++ name ++ "']"
  | index i => "[" ++ natText i ++ "]"
  | keys names => "[" ++ String.intercalate "," (names.map fun name => "'" ++ name ++ "'") ++ "]"
  | wildcard => ".*"

end Segment

namespace JsonPath

/-- Does every segment name one location? -/
def isSingular (path : JsonPath) : Bool := path.segments.all (·.step?.isSome)

/-- The steps of a path whose segments all name one location. -/
def steps? (path : JsonPath) : Option (List Step) := path.segments.mapM Segment.step?

/-- The selected nodes one level deeper. -/
def expand (found : List (List Step × Document)) (segment : Segment) :
    List (List Step × Document) :=
  found.flatMap fun (steps, node) =>
    (segment.select node).map fun (step, child) => (steps ++ [step], child)

/-- The steps to each selected node, in document order. -/
def find (path : JsonPath) (root : Document) : List (List Step) :=
  (path.segments.foldl expand [([], root)]).map (·.1)

/-- The path as it is displayed. -/
def display (path : JsonPath) : String :=
  "$" ++ String.join (path.segments.map Segment.display)

end JsonPath

end ApiTools
