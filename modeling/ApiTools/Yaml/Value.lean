import ApiTools.Document
import ApiTools.Number.Numeral
import ApiTools.Yaml.Node

/-!
# Values of YAML nodes

A plain scalar without a tag is null, a truth value, a number or a text, by its spelling alone
(`Plain.ofText`); a quoted one is a text.  A tag asks for one of these.  `Node.toDocument?` turns a
node into a document: keys become texts, a repeated key keeps its first place and its last value,
and what no document can hold is refused.
-/

namespace ApiTools.Yaml

/-- What the spelling of a plain scalar denotes. -/
inductive Plain where
  | null
  | bool (value : Bool)
  | int (value : Int)
  /-- An integer beyond 64 bits but within 128. -/
  | wide
  | float (value : Binary64)
  | text
  deriving DecidableEq

namespace Plain

open Numeral

/-- Does the spelling mean null? -/
def isNull (s : String) : Bool := s == "null" || s == "Null" || s == "NULL" || s == "~"

/-- The truth value that the spelling means. -/
def bool? (s : String) : Option Bool :=
  if s == "true" || s == "True" || s == "TRUE" then some true
  else if s == "false" || s == "False" || s == "FALSE" then some false
  else none

/-- The number that a spelling with the mark of a base, or without one, denotes. -/
def magnitude? (cs : List Char) : Option Nat :=
  match cs with
  | '0' :: 'x' :: rest => digits? 16 rest
  | '0' :: 'o' :: rest => digits? 8 rest
  | '0' :: 'b' :: rest => digits? 2 rest
  | _ => digits? 10 cs

/-- The spelling without one sign in front. -/
def withoutSign : List Char → List Char
  | '+' :: rest => rest
  | '-' :: rest => rest
  | cs => cs

/-- Is it a zero with digits after it?  Such a spelling is no number. -/
def isZeroPadded (cs : List Char) : Bool :=
  match withoutSign cs with
  | '0' :: c :: rest => (c :: rest).all fun c => (digit? 10 c).isSome
  | _ => false

/-- The natural number that the spelling means. -/
def natural? (cs : List Char) : Option Nat :=
  if isZeroPadded cs then none else magnitude? (withoutPlus cs)

/-- The absolute value of the negative number that the spelling means. -/
def negative? (cs : List Char) : Option Nat :=
  match cs with
  | '-' :: rest => if isZeroPadded cs then none else magnitude? rest
  | _ => none

/-- The finite decimal that the spelling means. -/
def finite? (cs : List Char) : Option Binary64 :=
  let x := match cs with
    | '-' :: rest => decimal? true rest
    | _ => decimal? false (withoutPlus cs)
  x.bind fun x => if x.isFinite then some x else none

/-- The floating-point number that the spelling means. -/
def float? (s : String) : Option Binary64 :=
  match String.ofList (withoutPlus s.toList) with
  | ".inf" => some (.infinite false)
  | ".Inf" => some (.infinite false)
  | ".INF" => some (.infinite false)
  | "-.inf" => if s = "-.inf" then some (.infinite true) else none
  | "-.Inf" => if s = "-.Inf" then some (.infinite true) else none
  | "-.INF" => if s = "-.INF" then some (.infinite true) else none
  | _ =>
    if s = ".nan" || s = ".NaN" || s = ".NAN" then some .nan else finite? s.toList

/-- The integer that the spelling means, where it has at most 128 bits. -/
def int? (s : String) : Option Plain :=
  match natural? s.toList with
  | some n =>
    if n < Nat.pow 2 64 then some (.int n) else if n < Nat.pow 2 128 then some .wide else none
  | none =>
    match negative? s.toList with
    | some n =>
      if n ≤ Nat.pow 2 63 then some (.int (-n)) else if n ≤ Nat.pow 2 127 then some .wide else none
    | none => none

/-- What the spelling denotes. -/
def ofText (s : String) : Plain :=
  if s.isEmpty || isNull s then .null
  else
    match bool? s with
    | some b => .bool b
    | none =>
      match int? s with
      | some i => i
      | none =>
        if isZeroPadded s.toList then .text
        else
          match float? s with
          | some x => .float x
          | none => .text

end Plain

/-- The document value of a plain spelling, where a document can hold it. -/
def plainValue? (s : String) : Option Document :=
  match Plain.ofText s with
  | .null => some .null
  | .bool b => some (.bool b)
  | .int i => some (.ofInt i)
  | .wide => none
  | .float x => some (.ofBinary x)
  | .text => some (.text s)

/-- The tags that ask for a kind of scalar. -/
def standardTag (kind : String) : String := "tag:yaml.org,2002:" ++ kind

/-- Is it a tag of the application's own? -/
def isLocalTag (tag? : Option String) : Bool := (tag?.map (·.toList.head? == some '!')).getD false

/-- The document value of a scalar. -/
def scalarValue? (style : ScalarStyle) (tag? : Option String) (s : String) : Option Document :=
  match tag? with
  | none => if style = .plain then plainValue? s else some (.text s)
  | some tag =>
    if isLocalTag tag? then none
    else if tag = standardTag "bool" then (Plain.bool? s).map .bool
    else if tag = standardTag "int" then
      match Plain.int? s with
      | some (.int i) => some (.ofInt i)
      | _ => none
    else if tag = standardTag "float" then (Plain.float? s).map .ofBinary
    else if tag = standardTag "null" then if Plain.isNull s then some .null else none
    else some (.text s)

namespace Node

/-- The node itself, where an alias stands for it. -/
def target : Node → Node
  | .aliased node _ => node.target
  | node => node

/-- The text of a scalar, however it is written. -/
def scalarText? (node : Node) : Option String :=
  match node.target with
  | .scalar _ _ s => some s
  | _ => none

mutual
/-- The node as a document. -/
def toDocument? : Node → Option Document
  | .scalar style tag? s => scalarValue? style tag? s
  | .list tag? items =>
    if isLocalTag tag? then none else (itemsToDocuments? items).map .list
  | .mapping tag? entries =>
    if isLocalTag tag? then none
    else (entriesToMembers? entries).map fun members => .object (Members.ofEntries members)
  | .aliased node _ => node.toDocument?
  | .endless => none
  | .nothing => some .null

/-- The items as documents. -/
def itemsToDocuments? : List Node → Option (List Document)
  | [] => some []
  | item :: rest => do
    let item ← item.toDocument?
    let rest ← itemsToDocuments? rest
    return item :: rest

/-- The entries as members, which may repeat a key. -/
def entriesToMembers? : List (Node × Node) → Option (List (String × Document))
  | [] => some []
  | (key, value) :: rest => do
    let key ← key.scalarText?
    let value ← value.toDocument?
    let rest ← entriesToMembers? rest
    return (key, value) :: rest
end

end Node

/-- The document of a YAML text. -/
def read? (text : String) : Option Document := (document? text).bind Node.toDocument?

end ApiTools.Yaml
