import ApiTools.JsonPath.Read

/-!
# Overlays

An overlay is a list of edits to an API description.  Each action names its target by a path and
either gives a new value or removes what the path selects.  `Overlay.apply` carries them out in
order; an action that cannot be carried out is skipped, and the document stays as it is.
-/

namespace ApiTools

/-- What an overlay says about itself. -/
structure OverlayInfo where
  title : String
  version : String
  description? : Option String
  deriving Repr

/-- One edit. -/
structure OverlayAction where
  /-- The text of the path to the target. -/
  target : String
  /-- The new value of the target. -/
  update? : Option Document
  /-- Is the target to be removed? -/
  remove? : Option Bool
  deriving Repr

/-- A list of edits to an API description. -/
structure Overlay where
  /-- The version of the overlay format. -/
  version : String
  info : OverlayInfo
  actions : List OverlayAction
  deriving Repr

/-- The version of the overlay format that is written. -/
def Overlay.currentVersion : String := "1.0.0"

/-- Why an overlay or one of its actions cannot be used. -/
inductive OverlayError where
  | badPath (target : String) (cause : PathError)
  | edit (cause : EditError)
  /-- The path selects nothing, and it does not name one location that could be created. -/
  | nothingToCreate (path : JsonPath)
  deriving Repr

/-- The error in words. -/
def OverlayError.message : OverlayError → String
  | badPath target cause => "invalid JSONPath '" ++ target ++ "': " ++ cause.message
  | edit cause => cause.message
  | nothingToCreate path => path.display ++ " matched nothing and cannot be created"

/-- What became of an action. -/
inductive ActionOutcome where
  | applied
  /-- The target did not exist and was created. -/
  | created
  | skipped
  deriving DecidableEq, Repr

/-- Counts of what became of the actions. -/
structure ApplyStats where
  applied : Nat
  skipped : Nat
  /-- How many of the applied actions created their target. -/
  created : Nat
  deriving DecidableEq, Repr

namespace ApplyStats

/-- The counts before any action. -/
def zero : ApplyStats := ⟨0, 0, 0⟩

/-- The counts with one more action. -/
def add (stats : ApplyStats) : ActionOutcome → ApplyStats
  | .applied => { stats with applied := stats.applied + 1 }
  | .created => { stats with applied := stats.applied + 1, created := stats.created + 1 }
  | .skipped => { stats with skipped := stats.skipped + 1 }

end ApplyStats

namespace JsonPath

/-- Reads a path and says which text was wrong where it is none. -/
def readTarget (target : String) : Except OverlayError JsonPath :=
  (JsonPath.read target).mapError (.badPath target)

/-- Gives the value to every node that the path selects.  Where it selects none, the one location
that it names is created. -/
def update (path : JsonPath) (doc value : Document) :
    Document × Except OverlayError ActionOutcome :=
  match path.find doc with
  | [] =>
    match path.steps? with
    | none => (doc, .error (.nothingToCreate path))
    | some steps =>
      match doc.setAt steps value with
      | (doc, none) => (doc, .ok .created)
      | (doc, some cause) => (doc, .error (.edit cause))
  | found => (found.foldl (fun doc steps => doc.replaceAt steps value) doc, .ok .applied)

/-- Removes every node that the path selects, later positions of a list before earlier ones. -/
def remove (path : JsonPath) (doc : Document) : Document :=
  ((path.find doc).mergeSort Step.listLe).reverse.foldl
    (fun doc steps => (doc.removeAt? steps).getD doc) doc

end JsonPath

/-- Carries out one action. -/
def OverlayAction.apply (action : OverlayAction) (doc : Document) :
    Document × Except OverlayError ActionOutcome :=
  if Text.isBlankText action.target then (doc, .ok .skipped)
  else
    match JsonPath.readTarget action.target with
    | .error e => (doc, .error e)
    | .ok path =>
      match action.update? with
      | some value => path.update doc value
      | none =>
        if action.remove? = some true then (path.remove doc, .ok .applied) else (doc, .ok .skipped)

namespace Overlay

/-- One action carried out and counted; one that fails is counted as skipped. -/
def applyAction (state : Document × ApplyStats) (action : OverlayAction) : Document × ApplyStats :=
  let (doc, outcome) := action.apply state.1
  (doc, state.2.add (outcome.toOption.getD .skipped))

/-- All actions carried out in order. -/
def apply (overlay : Overlay) (doc : Document) : Document × ApplyStats :=
  overlay.actions.foldl applyAction (doc, .zero)

end Overlay

end ApiTools
