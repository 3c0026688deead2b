import ApiTools.Number.Total
import ApiTools.Overlay
import ApiTools.Overlay.Wording
import ApiTools.Prompts
import ApiTools.Settings

/-!
# Generating an overlay

The overlay of an API description has one action for each text to be improved: descriptions and
short summaries of operations, and descriptions of parameters that are written out.  `tasks` lists
them; each task holds the text that rules give and, where a language model is used, the question to
ask.  The model's answer replaces the text unless it fails or is blank.
-/

namespace ApiTools

/-- One text that an overlay sets. -/
structure OverlayTask where
  target : String
  /-- The text that rules give. -/
  text : String
  /-- What a language model is asked. -/
  question? : Option Question
  /-- The greatest length of the model's text. -/
  limit? : Option Nat
  deriving DecidableEq, Repr

/-- What became of a task. -/
structure TaskOutcome where
  text : String
  /-- The tokens of the call, where the model answered. -/
  usage? : Option TokenUsage
  /-- Was the model asked in vain? -/
  failed : Bool
  deriving DecidableEq, Repr

/-- What was done for an overlay. -/
structure GenerationStats where
  operations : Nat
  actions : Nat
  /-- The number of calls that were answered. -/
  calls : Nat
  /-- The number of calls that failed or were answered with nothing. -/
  failures : Nat
  inputTokens : Nat
  outputTokens : Nat
  /-- The number of calls whose tokens are estimated. -/
  estimatedCalls : Nat
  deriving DecidableEq, Repr

/-- An overlay that was generated. -/
structure GeneratedOverlay where
  overlay : Overlay
  stats : GenerationStats
  /-- What the language model was asked, in order. -/
  questions : List Question

namespace OverlayTask

/-- The text of a reply as it is used. -/
def limited (task : OverlayTask) (text : String) : String :=
  match task.limit? with
  | some max => Text.cutMarked text max
  | none => text

/-- What becomes of a task whose question got the given reply. -/
def outcomeOf (task : OverlayTask) : Option Reply → TaskOutcome
  | some reply =>
    match reply.text? with
    | some text => ⟨task.limited text, some reply.usage, false⟩
    | none => ⟨task.text, some reply.usage, true⟩
  | none => ⟨task.text, none, true⟩

/-- What becomes of the tasks, after the given number of questions. -/
def outcomes (model : LanguageModel) : (asked : Nat) → List OverlayTask → List TaskOutcome
  | _, [] => []
  | asked, task :: rest =>
    match task.question? with
    | some question => task.outcomeOf (model asked question) :: outcomes model (asked + 1) rest
    | none => ⟨task.text, none, false⟩ :: outcomes model asked rest

end OverlayTask

namespace Overlay

/-- A key in a target, in single quotes with the quotes inside it escaped. -/
def quotedKey (key : String) : String :=
  "'" ++ Text.replace key "'" "\\'" ++ "'"

/-- The target of an operation. -/
def operationTarget (op : Operation) : String :=
  "$.paths[" ++ quotedKey op.path ++ "]." ++ op.method.name

/-- Yes or no. -/
def yesNo (b : Bool) : String := if b then "Yes" else "No"

/-- The text, or `None` where it is missing or empty. -/
def orNone (s? : Option String) : String :=
  match s? with
  | some s => if s.isEmpty then "None" else s
  | none => "None"

/-- The names of the parameters of an operation in one part of the request. -/
def namesIn (op : Operation) (location : String) : String :=
  let names := (op.parameters.filter (·.getText? "in" == some location)).filterMap
    (·.getText? "name")
  if names.isEmpty then "None" else Text.join ", " names

/-- What a language model is told about an operation. -/
def operationSlots (op : Operation) : List (String × String) :=
  [("method", op.method.upper), ("path", op.path), ("operation_id", op.operationId?.getD ""),
    ("summary", orNone op.summary?),
    ("description", orNone (op.description?.map (Text.cut · 200))),
    ("path_params", namesIn op "path"), ("query_params", namesIn op "query"),
    ("has_body", yesNo op.requestBody?.isSome)]

/-- What a language model is told about a parameter. -/
def parameterSlots (op : Operation) (parameter : Document) : List (String × String) :=
  let context := op.method.upper ++ " " ++ op.path ++ " - " ++ op.summary?.getD ""
  [("param_name", (parameter.getText? "name").getD ""),
    ("param_in", (parameter.getText? "in").getD ""), ("param_type", parameter.declaredType),
    ("param_required", yesNo parameter.isMarkedRequired),
    ("param_description", orNone ((parameter.getText? "description").map (Text.cut · 100))),
    ("operation_context", Text.cut context 50)]

/-- Summaries shorter than this are replaced. -/
def shortSummary : Nat := 20

/-- The description of an operation. -/
def descriptionTask (settings : OverlaySettings) (prompts? : Option Prompts) (spec : Spec)
    (op : Operation) : OverlayTask :=
  ⟨operationTarget op ++ ".description", Wording.operation spec settings.addUseCases op,
    prompts?.map (·.operation.question (operationSlots op)), none⟩

/-- The summary of an operation. -/
def summaryTask (op : Operation) : OverlayTask :=
  ⟨operationTarget op ++ ".summary", op.purpose, none, none⟩

/-- The description of the parameter at a position. -/
def parameterTask (settings : OverlaySettings) (prompts? : Option Prompts) (op : Operation)
    (position : Nat) (parameter : Document) : OverlayTask :=
  ⟨operationTarget op ++ ".parameters[" ++ natText position ++ "].description",
    Wording.parameter settings.addParameterGuidance parameter,
    prompts?.map (·.parameter.question (parameterSlots op parameter)),
    prompts?.map fun _ => settings.maxDescriptionLength⟩

/-- The tasks for the parameters of an operation from a position on, without those that only refer
to a parameter. -/
def parameterTasks (settings : OverlaySettings) (prompts? : Option Prompts) (op : Operation) :
    (position : Nat) → List Document → List OverlayTask
  | _, [] => []
  | position, parameter :: rest =>
    let more := parameterTasks settings prompts? op (position + 1) rest
    if parameter.has "$ref" then more
    else parameterTask settings prompts? op position parameter :: more

/-- The tasks for an operation. -/
def operationTasks (settings : OverlaySettings) (prompts? : Option Prompts) (spec : Spec)
    (op : Operation) : List OverlayTask :=
  (if settings.describeOperations then [descriptionTask settings prompts? spec op] else [])
    ++ (if settings.summarize && (op.summary?.getD "").toList.length < shortSummary then
          [summaryTask op]
        else [])
    ++ (if settings.describeParameters then
          parameterTasks settings prompts? op 0 op.parameters
        else [])

/-- The tasks for all operations, in order. -/
def tasks (settings : OverlaySettings) (prompts? : Option Prompts) (spec : Spec) :
    List OverlayTask :=
  spec.operations.flatMap (operationTasks settings prompts? spec)

/-- What a generated overlay says about itself. -/
def generatedInfo (spec : Spec) : OverlayInfo where
  title := "MCP Agent Enhancement Overlay for " ++ spec.title?.getD "API"
  version := "1.0.0"
  description? := some ("This overlay enhances the OpenAPI specification with agent-friendly "
    ++ "descriptions, use cases, and guidance to improve MCP server tool generation and AI agent "
    ++ "understanding.")

/-- The overlay that sets the texts of the tasks. -/
def ofTasks (spec : Spec) (texts : List (String × String)) : Overlay where
  version := currentVersion
  info := generatedInfo spec
  actions := texts.map fun (target, text) => ⟨target, some (.text text), none⟩

/-- The statistics of a number of operations and the outcomes of their tasks. -/
def statsOf (operations : Nat) (outcomes : List TaskOutcome) : GenerationStats :=
  let usages := outcomes.filterMap TaskOutcome.usage?
  { operations, actions := outcomes.length, calls := usages.length,
    failures := outcomes.countP TaskOutcome.failed
    inputTokens := total (usages.map TokenUsage.input)
    outputTokens := total (usages.map TokenUsage.output)
    estimatedCalls := usages.countP TokenUsage.isEstimated }

/-- The prompts of an assistant that is to be used. -/
def activePrompts? (settings : OverlaySettings) (assistant? : Option Assistant) : Option Prompts :=
  if settings.useModel then assistant?.bind Assistant.prompts? else none

/-- The overlay of an API description. -/
def generate (settings : OverlaySettings) (assistant? : Option Assistant) (spec : Spec) :
    GeneratedOverlay :=
  if !settings.enabled then ⟨ofTasks spec [], statsOf 0 [], []⟩
  else
    let tasks := tasks settings (activePrompts? settings assistant?) spec
    let model := (assistant?.map Assistant.model).getD .silent
    let outcomes := OverlayTask.outcomes model 0 tasks
    ⟨ofTasks spec ((tasks.map OverlayTask.target).zip (outcomes.map TaskOutcome.text)),
      statsOf spec.operations.length outcomes, tasks.filterMap OverlayTask.question?⟩

end Overlay

end ApiTools
