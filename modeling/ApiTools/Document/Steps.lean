import ApiTools.Document
import ApiTools.Text.Shown

/-!
# Steps into a document

A list of steps names at most one node of a document.  `getAt?` reads it, `replaceAt` overwrites it,
`removeAt?` deletes it, and `setAt` writes it and creates the containers that are missing on the
way. A key of digits leads into a list as well as into an object.
-/

namespace ApiTools

/-- A step from a node to one of its children. -/
inductive Step where
  | key (name : String)
  | index (position : Nat)
  deriving DecidableEq, Repr

/-- Is it a digit? -/
def isDigitChar (c : Char) : Bool := 48 ≤ c.toNat && c.toNat ≤ 57

/-- The number that decimal digits denote. -/
def digitsValue (digits : List Char) : Nat := digits.foldl (fun n c => n * 10 + (c.toNat - 48)) 0

/-- The greatest position that can be written. -/
def maxPosition : Nat := Nat.pow 2 64 - 1

/-- The position that one or more digits denote, where it is not too great. -/
def positionOfDigits? (digits : List Char) : Option Nat :=
  if !digits.isEmpty && digits.all isDigitChar && digitsValue digits ≤ maxPosition then
    some (digitsValue digits)
  else none

/-- The position that a key denotes: digits, after a plus sign or not. -/
def positionOfKey? (name : String) : Option Nat :=
  match name.toList with
  | '+' :: digits => positionOfDigits? digits
  | digits => positionOfDigits? digits

namespace Step

/-- Does the step lead into a list rather than an object where there is nothing yet? -/
def isNumeric : Step → Bool
  | index _ => true
  | key name => !name.toList.isEmpty && name.toList.all isDigitChar

/-- The position in a list that the step leads to. -/
def position? : Step → Option Nat
  | index i => some i
  | key name => positionOfKey? name

/-- The key in an object that the step leads to. -/
def keyText : Step → String
  | index i => natText i
  | key name => name

/-- The step as messages show it. -/
def shown : Step → String
  | key name => "Key(" ++ Text.Shown.encode name ++ ")"
  | index i => "Index(" ++ natText i ++ ")"

/-- Keys come before positions. -/
def le : Step → Step → Bool
  | key a, key b => a ≤ b
  | key _, index _ => true
  | index _, key _ => false
  | index i, index j => i ≤ j

/-- The order of lists of steps by the first step in which they differ. -/
def listLe : List Step → List Step → Bool
  | [], _ => true
  | _ :: _, [] => false
  | a :: as, b :: bs => if a = b then listLe as bs else a.le b

end Step

/-- Why a node could not be written. -/
inductive EditError where
  /-- The last step does not lead into the node before it. -/
  | cannotSet (step : Step)
  /-- A step on the way does not lead into the node before it. -/
  | cannotDescend (step : Step)
  deriving DecidableEq, Repr

/-- The error in words. -/
def EditError.message : EditError → String
  | cannotSet step => "cannot set " ++ step.shown ++ " inside a scalar value"
  | cannotDescend step => "cannot descend into " ++ step.shown ++ " of a non-container value"

namespace Document

/-- The child that a step leads to. -/
def step? (doc : Document) (step : Step) : Option Document :=
  match doc with
  | .object members => Members.get? members step.keyText
  | .list items => step.position?.bind (items[·]?)
  | _ => none

/-- The document with the child that a step leads to replaced. -/
def withChild (doc : Document) (step : Step) (child : Document) : Document :=
  match doc with
  | .object members => .object (Members.set members step.keyText child)
  | .list items =>
    match step.position? with
    | some i => .list (items.set i child)
    | none => doc
  | _ => doc

/-- The node that the steps lead to. -/
def getAt? : Document → List Step → Option Document
  | doc, [] => some doc
  | doc, step :: rest => (doc.step? step).bind (getAt? · rest)

/-- The document with the node that the steps lead to overwritten, where there is one. -/
def replaceAt : Document → List Step → Document → Document
  | _, [], value => value
  | doc, step :: rest, value =>
    match doc.step? step with
    | some child => doc.withChild step (replaceAt child rest value)
    | none => doc

/-- The document without the child that a step leads to, where there is one. -/
def removeChild? (doc : Document) (step : Step) : Option Document :=
  match doc with
  | .object members =>
    if Members.has members step.keyText then some (.object (Members.erase members step.keyText))
    else none
  | .list items =>
    match step.position? with
    | some i => if i < items.length then some (.list (items.eraseIdx i)) else none
    | none => none
  | _ => none

/-- The document without the node that the steps lead to, where there is one; the root stays. -/
def removeAt? : Document → List Step → Option Document
  | _, [] => none
  | doc, [step] => doc.removeChild? step
  | doc, step :: next :: rest =>
    (doc.step? step).bind fun child =>
      (removeAt? child (next :: rest)).map (doc.withChild step ·)

/-- The list filled up so that it has an item at the position. -/
def padTo (items : List Document) (position : Nat) (filler : Document) : List Document :=
  items ++ List.replicate (position + 1 - items.length) filler

/-- The container that is created before a step. -/
def freshFor (next : Step) : Document := if next.isNumeric then .list [] else .object []

/-- A node that is on the way: where it is null, a new container takes its place. -/
def orFresh (node : Document) (next : Step) : Document :=
  if node.isNull then freshFor next else node

/-- Writes the value at the last step. -/
def setChild (doc : Document) (step : Step) (value : Document) : Document × Option EditError :=
  match doc with
  | .list items =>
    if step.isNumeric then
      let position := step.position?.getD items.length
      (.list ((padTo items position .null).set position value), none)
    else (doc, some (.cannotSet step))
  | .object members => (.object (Members.set members step.keyText value), none)
  | _ => (doc, some (.cannotSet step))

/-- Writes the value at the steps and creates what is missing on the way: a list where the next step
leads into one, else an object.  Lists are filled up with empty objects on the way and with null at
the last step.  The document is returned as the call left it, with the error where it failed. -/
def setAt : Document → List Step → Document → Document × Option EditError
  | _, [], value => (value, none)
  | doc, [step], value => doc.setChild step value
  | doc, step :: next :: rest, value =>
    match doc with
    | .list items =>
      if step.isNumeric then
        let position := step.position?.getD items.length
        let padded := padTo items position (.object [])
        let child := orFresh (padded[position]?.getD .null) next
        let (child, error) := setAt child (next :: rest) value
        (.list (padded.set position child), error)
      else (doc, some (.cannotDescend step))
    | .object members =>
      let child := orFresh ((Members.get? members step.keyText).getD .null) next
      let (child, error) := setAt child (next :: rest) value
      (.object (Members.set members step.keyText child), error)
    | _ => (doc, some (.cannotDescend step))

end Document

end ApiTools
