import ApiTools.Document.Json
import ApiTools.Spec
import ApiTools.Yaml.Value

/-!
# Reading API descriptions

The text of an API description is an object in JSON, or else a mapping in YAML.
-/

namespace ApiTools

/-- Why a text is no API description. -/
inductive SpecTextError where
  | notReadable
  | notMapping
  deriving DecidableEq, Repr

/-- The error in words. -/
def SpecTextError.message : SpecTextError → String
  | notReadable => "content is neither valid JSON nor YAML"
  | notMapping => "document root is not a mapping"

namespace Spec

/-- Reads the YAML text of an API description. -/
def readYaml (text : String) : Except SpecTextError Spec :=
  match Yaml.read? text with
  | none => .error .notReadable
  | some doc => if doc.isObject then .ok ⟨doc⟩ else .error .notMapping

/-- Reads the text of an API description. -/
def read (text : String) : Except SpecTextError Spec :=
  match Document.ofJson? text with
  | some doc => if doc.isObject then .ok ⟨doc⟩ else readYaml text
  | none => readYaml text

end Spec

end ApiTools
