import ApiTools.Overlay
import ApiTools.Record
import ApiTools.Yaml.Write

/-!
# Overlays as text

An overlay is read from JSON, or from YAML where the text is no overlay in JSON, and written in
either format.
-/

namespace ApiTools

/-- The formats in which documents are written. -/
inductive OutputFormat where
  | yaml
  | json
  deriving DecidableEq, Repr

/-- The ending of the names of files in the format. -/
def OutputFormat.extension : OutputFormat → String
  | yaml => "yaml"
  | json => "json"

/-- The document as text. -/
def Document.textIn (doc : Document) : OutputFormat → String
  | .yaml => doc.yaml
  | .json => doc.pretty

namespace Overlay

open Record

variable {α : Type} [Source α]

/-- Reads what an overlay says about itself. -/
def infoOfRecord? (value : α) : Option OverlayInfo := do
  let fields ← Source.fields? ["title", "version", "description"] value
  return { title := ← required fields "title" Source.text?
           version := ← required fields "version" Source.text?
           description? := ← optional fields "description" Source.text? }

/-- Reads an action. -/
def actionOfRecord? (value : α) : Option OverlayAction := do
  let fields ← Source.fields? ["target", "update", "remove"] value
  return { target := ← withDefault fields "target" "" Source.text?
           update? := ← optional fields "update" Source.document?
           remove? := ← optional fields "remove" Source.flag? }

/-- Reads an overlay. -/
def ofRecord? (value : α) : Option Overlay := do
  let fields ← Source.fields? ["overlay", "info", "actions"] value
  return { version := ← required fields "overlay" Source.text?
           info := ← required fields "info" infoOfRecord?
           actions := ← withDefault fields "actions" [] fun actions =>
             (Source.items? actions).bind (·.mapM actionOfRecord?) }

/-- Reads the text of an overlay. -/
def read? (text : String) : Option Overlay :=
  match (Document.entriesOfJson? Document.maxDepth text).bind ofRecord? with
  | some overlay => some overlay
  | none => (Yaml.document? text).bind ofRecord?

/-- What an overlay says about itself, as a document. -/
def infoDocument (info : OverlayInfo) : Document :=
  .object ([("title", .text info.title), ("version", .text info.version)]
    ++ (info.description?.map fun d => ("description", Document.text d)).toList)

/-- An action as a document. -/
def actionDocument (action : OverlayAction) : Document :=
  .object ([("target", .text action.target)]
    ++ (action.update?.map ("update", ·)).toList
    ++ (action.remove?.map fun b => ("remove", Document.bool b)).toList)

/-- The overlay as a document. -/
def toDocument (overlay : Overlay) : Document :=
  .object [("overlay", .text overlay.version), ("info", infoDocument overlay.info),
    ("actions", .list (overlay.actions.map actionDocument))]

/-- The overlay as text. -/
def textIn (overlay : Overlay) (format : OutputFormat) : String :=
  overlay.toDocument.textIn format

end Overlay

end ApiTools
