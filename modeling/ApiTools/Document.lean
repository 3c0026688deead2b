import ApiTools.Number.Decimal

/-!
# Documents

A document is a tree of scalars, lists and objects.  The members of an object are kept in order:
a member that is set again keeps its place, and a new one goes to the end (`Members.set`).  A
member can be taken out in two ways, one that keeps the order of the others (`Members.erase`) and
one that moves the last member into the gap (`Members.eraseSwap`).
-/

namespace ApiTools

/-- A number of a document: an integer of 64 bits, signed or unsigned, or a binary floating-point
number. -/
inductive Number where
  | int (value : Int)
  | float (value : Binary64)
  deriving DecidableEq, Repr, Inhabited

/-- A tree of scalars, lists and objects. -/
inductive Document where
  | null
  | bool (value : Bool)
  | number (value : Number)
  | text (value : String)
  | list (items : List Document)
  | object (members : List (String × Document))
  deriving Repr, Inhabited

/-- The members of an object, in order. -/
abbrev Members := List (String × Document)

namespace Members

/-- The value of the first member with the key. -/
def get? (members : Members) (key : String) : Option Document := members.lookup key

/-- Is there a member with the key? -/
def has (members : Members) (key : String) : Bool := (get? members key).isSome

/-- The keys, in order. -/
def keys (members : Members) : List String := members.map (·.1)

/-- The members with the value of the key set: in its place where the key is there, else at the
end. -/
def set : Members → String → Document → Members
  | [], key, value => [(key, value)]
  | (k, v) :: rest, key, value =>
    if k = key then (k, value) :: rest else (k, v) :: set rest key value

/-- The members with the key set only where it is not there yet. -/
def setIfAbsent (members : Members) (key : String) (value : Document) : Members :=
  if has members key then members else members ++ [(key, value)]

/-- The members without the key, in their order. -/
def erase (members : Members) (key : String) : Members := members.filter (·.1 ≠ key)

/-- The members without the key, the last one having taken its place. -/
def eraseSwap : Members → String → Members
  | [], _ => []
  | (k, v) :: rest, key =>
    if k = key then
      match rest.getLast? with
      | none => []
      | some last => last :: rest.dropLast
    else (k, v) :: eraseSwap rest key

/-- The members of a list of entries, where a key that is repeated keeps its first place and its
last value. -/
def ofEntries (entries : List (String × Document)) : Members :=
  entries.foldl (fun members entry => set members entry.1 entry.2) []

end Members

namespace Number

/-- The value as a floating-point number. -/
def toBinary : Number → Binary64
  | .int i => Binary64.ofInt i
  | .float x => x

/-- The value as an unsigned integer of 64 bits, where it is given as one. -/
def natural? : Number → Option Nat
  | .int i => if 0 ≤ i then some i.toNat else none
  | .float _ => none

end Number

namespace Document

/-- An integer. -/
def ofInt (i : Int) : Document := .number (.int i)

/-- A natural number. -/
def ofNat (n : Nat) : Document := .number (.int n)

/-- A floating-point number; one that is not finite becomes null. -/
def ofBinary (x : Binary64) : Document := if x.isFinite then .number (.float x) else .null

/-- A text, or null. -/
def ofText? (s : Option String) : Document := (s.map Document.text).getD .null

/-- A list of texts. -/
def ofTexts (texts : List String) : Document := .list (texts.map .text)

/-- The members of an object. -/
def members? : Document → Option Members
  | .object members => some members
  | _ => none

/-- The items of a list. -/
def items? : Document → Option (List Document)
  | .list items => some items
  | _ => none

/-- The text of a text. -/
def text? : Document → Option String
  | .text s => some s
  | _ => none

/-- The truth value of a truth value. -/
def bool? : Document → Option Bool
  | .bool b => some b
  | _ => none

/-- The number of a number. -/
def number? : Document → Option Number
  | .number n => some n
  | _ => none

/-- Is it an object? -/
def isObject : Document → Bool
  | .object _ => true
  | _ => false

/-- Is it null? -/
def isNull : Document → Bool
  | .null => true
  | _ => false

/-- The value of a member of an object. -/
def get? (doc : Document) (key : String) : Option Document :=
  doc.members?.bind (Members.get? · key)

/-- The text of a member of an object. -/
def getText? (doc : Document) (key : String) : Option String := (doc.get? key).bind text?

/-- The items of a member of an object. -/
def getItems? (doc : Document) (key : String) : Option (List Document) := (doc.get? key).bind items?

/-- The members of a member of an object. -/
def getMembers? (doc : Document) (key : String) : Option Members := (doc.get? key).bind members?

/-- Is there a member with the key? -/
def has (doc : Document) (key : String) : Bool := (doc.get? key).isSome

end Document

end ApiTools
