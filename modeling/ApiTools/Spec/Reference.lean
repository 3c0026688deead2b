import ApiTools.Spec
import ApiTools.Text.Cut

/-!
# References inside a document

A reference is `#` and a pointer.  A pointer is empty, or a list of tokens each after a slash, where
`~1` stands for a slash and `~0` for a tilde.  `Spec.resolve` follows at most 32 references.
-/

namespace ApiTools.Spec

open Text

/-- A token of a pointer with its escapes undone. -/
def unescapeToken (token : List Char) : List Char :=
  replaceFrom ['~', '0'] ['~'] 0 (replaceFrom ['~', '1'] ['/'] 0 token)

/-- The position that a token names in a list: digits without a leading zero. -/
def tokenIndex? (token : List Char) : Option Nat :=
  match token with
  | [] => none
  | c :: rest =>
    if token.all (fun c => 48 ≤ c.toNat && c.toNat ≤ 57) && (c ≠ '0' || rest.isEmpty) then
      some (token.foldl (fun n c => n * 10 + (c.toNat - 48)) 0)
    else none

/-- The child of a document that a token names. -/
def child? (doc : Document) (token : List Char) : Option Document :=
  match doc with
  | .object members => Members.get? members (String.ofList token)
  | .list items => (tokenIndex? token).bind (items[·]?)
  | _ => none

/-- The node that the tokens lead to. -/
def follow? (doc : Document) : List (List Char) → Option Document
  | [] => some doc
  | token :: rest => (child? doc (unescapeToken token)).bind (follow? · rest)

/-- The node that a reference names, where it names one in this document. -/
def target? (spec : Spec) (reference : String) : Option Document :=
  match reference.toList with
  | ['#'] => some spec.root
  | '#' :: '/' :: pointer => follow? spec.root (splitChars '/' pointer)
  | _ => none

/-- The node that the value refers to, where it is a reference that can be resolved. -/
def next? (spec : Spec) (value : Document) : Option Document :=
  (value.getText? "$ref").bind spec.target?

/-- The node reached by at most the given number of references. -/
def resolveWithin (spec : Spec) : Nat → Document → Document
  | 0, value => value
  | hops + 1, value =>
    match spec.next? value with
    | some target => resolveWithin spec hops target
    | none => value

/-- The number of references followed in a row. -/
def maxHops : Nat := 32

/-- The node reached from the value by following references. -/
def resolve (spec : Spec) (value : Document) : Document := spec.resolveWithin maxHops value

end ApiTools.Spec
