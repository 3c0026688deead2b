import ApiTools.Failure
import ApiTools.Gateway
import ApiTools.Prompts.Builtin

/-!
# Documents in files

API descriptions, overlays, settings and prompts are read from files, and what is made of them is
written to files.  A file that is written gets the directories that it needs, except for the one
that sets up a gateway, which stands beside a description.
-/

namespace ApiTools

variable {m : Type → Type} [Monad m] [FileStore m]

/-- Gives a file its content, in a directory that is made where it is missing. -/
def FileStore.save (path content : String) : ExceptT Failure m Unit := do
  FileStore.attempt (FileStore.createParent path)
  FileStore.attempt (FileStore.write path content)

namespace Spec

/-- Is the location one on a network? -/
def isRemote (location : String) : Bool :=
  ["http://", "https://"].any fun scheme => scheme.toList.isPrefixOf location.toList

/-- Reads an API description. -/
def load (path : String) : ExceptT Failure m Spec := do
  if isRemote path then throw (.remoteSpec path)
  match ← (FileStore.read path : m _) with
  | .error cause => throw (.unreadableSpec path cause)
  | .ok text =>
    match Spec.read text with
    | .error cause => throw (.malformedSpec path cause)
    | .ok spec => return spec

/-- Writes an API description. -/
def save (spec : Spec) (path : String) (format : OutputFormat) : ExceptT Failure m Unit :=
  FileStore.save path (spec.root.textIn format)

end Spec

namespace Overlay

/-- Reads an overlay. -/
def load (path : String) : ExceptT Failure m Overlay := do
  match Overlay.read? (← FileStore.attempt (FileStore.read path)) with
  | none => throw (.malformedOverlay path)
  | some overlay => return overlay

/-- Writes an overlay. -/
def save (overlay : Overlay) (path : String) (format : OutputFormat) : ExceptT Failure m Unit :=
  FileStore.save path (overlay.textIn format)

end Overlay

namespace Settings

/-- The name of the file with the settings for the descriptions in its directory. -/
def fileName : String := "config.yaml"

/-- Reads settings. -/
def load (path : String) : ExceptT Failure m Settings := do
  match Settings.read? (← FileStore.attempt (FileStore.read path)) with
  | none => throw .malformedSettings
  | some settings => return settings

/-- The settings for a description: those of the file that is named, or of the one beside the
description, or the defaults. -/
def discover (named? : Option String) (specPath : String) : ExceptT Failure m Settings := do
  match named? with
  | some path => load path
  | none =>
    let beside := Path.join ((Path.parent? specPath).getD "") fileName
    if ← (FileStore.isPresent beside : m Bool) then load beside else return {}

end Settings

namespace Prompts

/-- The prompts in a file, if they can be read, or those that are used where no others are given. -/
def locate (named? : Option String) : m (Option Prompts) := do
  match named? with
  | none => return some builtin
  | some path =>
    match ← FileStore.read path with
    | .error _ => return none
    | .ok text => return (Prompts.read text).toOption

end Prompts

/-- Writes the configuration of a gateway beside a description, and tells where. -/
def GatewaySettings.save (settings : GatewaySettings) (specPath : String) :
    ExceptT Failure m String := do
  match Path.fileName? specPath with
  | none => throw (.unnamedSpec specPath)
  | some specFile =>
    let path := Path.join ((Path.parent? specPath).getD ".") fileName
    FileStore.attempt (FileStore.write path (settings.config specFile))
    return path

end ApiTools
