import ApiTools.LanguageModel
import ApiTools.Record

/-!
# Prompts

A prompt tells a language model its task and holds the question as a text with slots.  A slot is a
name in braces, and a doubled brace stands for a brace; `fillSlots` puts texts in, which are never
read again for slots.
-/

namespace ApiTools

/-! ### Slots -/

/-- The text in place of a slot: the one given for its name, or the slot itself. -/
def slotText (slots : List (String × String)) (name : List Char) : List Char :=
  match slots.lookup (String.ofList name) with
  | some text => text.toList
  | none => '\x7b' :: name ++ ['\x7d']

/-- The characters with the slots filled.  `begun?` holds the name of the slot that has been begun,
in reverse; one that is never closed stays as it is. -/
def fillFrom (slots : List (String × String)) : (begun? : Option (List Char)) → List Char →
    List Char
  | none, [] => []
  | some name, [] => '\x7b' :: name.reverse
  | some name, c :: rest =>
    if c = '\x7d' then slotText slots name.reverse ++ fillFrom slots none rest
    else fillFrom slots (some (c :: name)) rest
  | none, '\x7b' :: '\x7b' :: rest => '\x7b' :: fillFrom slots none rest
  | none, '\x7d' :: '\x7d' :: rest => '\x7d' :: fillFrom slots none rest
  | none, c :: rest =>
    if c = '\x7b' then fillFrom slots (some []) rest else c :: fillFrom slots none rest

/-- The text with the slots filled. -/
def fillSlots (template : String) (slots : List (String × String)) : String :=
  String.ofList (fillFrom slots none template.toList)

/-! ### Prompts -/

/-- A task with a question that has slots. -/
structure Prompt where
  system : String
  template : String
  deriving DecidableEq, Repr

/-- The question with the slots filled; neither part has blanks around it. -/
def Prompt.question (prompt : Prompt) (slots : List (String × String)) : Question :=
  ⟨Text.trim prompt.system, Text.trim (fillSlots prompt.template slots)⟩

/-- The prompts for everything that a language model may be asked. -/
structure Prompts where
  /-- The description of an operation. -/
  operation : Prompt
  /-- The description of a parameter. -/
  parameter : Prompt
  /-- The description of a tool. -/
  tool? : Option Prompt
  /-- The task of an agent. -/
  agent? : Option Prompt
  deriving DecidableEq, Repr

/-- Why a text is no set of prompts. -/
inductive PromptsError where
  /-- It is no YAML, or has the wrong fields. -/
  | malformed
  /-- The prompt with the given name does not tell the task. -/
  | emptySystem (name : String)
  deriving DecidableEq, Repr

namespace PromptsError

/-- The wording of the error. -/
def message : PromptsError → String
  | malformed => "Invalid YAML"
  | emptySystem name => "Configuration error: prompt '" ++ name ++ "' has an empty system_prompt"

end PromptsError

namespace Prompts

open Record

/-- Reads a prompt. -/
def promptOfRecord? {α : Type} [Source α] (value : α) : Option Prompt := do
  let fields ← Source.fields? ["system_prompt", "user_prompt_template"] value
  return { system := ← required fields "system_prompt" Source.text?
           template := ← required fields "user_prompt_template" Source.text? }

/-- Reads a set of prompts. -/
def ofRecord? {α : Type} [Source α] (value : α) : Option Prompts := do
  let fields ← Source.fields? ["operation_description", "parameter_description", "tool_docstring",
    "agent_system_prompt"] value
  return { operation := ← required fields "operation_description" promptOfRecord?
           parameter := ← required fields "parameter_description" promptOfRecord?
           tool? := ← optional fields "tool_docstring" promptOfRecord?
           agent? := ← optional fields "agent_system_prompt" promptOfRecord? }

/-- Reads the text of a set of prompts.  The two that are always there must tell the task. -/
def read (text : String) : Except PromptsError Prompts :=
  match (Yaml.document? text).bind ofRecord? with
  | none => .error .malformed
  | some prompts =>
    if Text.isBlankText prompts.operation.system then .error (.emptySystem "operation_description")
    else if Text.isBlankText prompts.parameter.system then
      .error (.emptySystem "parameter_description")
    else .ok prompts

end Prompts

/-- A language model with the prompts to be used, where there are any. -/
structure Assistant where
  model : LanguageModel
  prompts? : Option Prompts

end ApiTools
