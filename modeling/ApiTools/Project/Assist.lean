import ApiTools.Project.View
import ApiTools.Prompts

/-!
# Texts that a language model writes for a project

Where the settings ask for it, a model describes the tools that have no description; and it tells an
agent its task.  What it cannot be asked is made from rules.
-/

namespace ApiTools

namespace Tool

/-- What a model is asked about the tool, where it has no description. -/
def question? (prompt? : Option Prompt) (tool : Tool) : Option Question :=
  if !Text.isBlankText tool.description then none
  else
    prompt?.map fun prompt =>
      prompt.question [("function_name", tool.name), ("method", tool.method.upper),
        ("path", tool.httpPath), ("params", Text.join ", " tool.signatures)]

/-- The description in a reply, in one line. -/
def written? (reply? : Option Reply) : Option String :=
  reply?.bind fun reply =>
    let text := Text.collapse reply.content
    if text.isEmpty then none else some text

end Tool

namespace Project

/-- The prompt for descriptions of tools, where they are asked for. -/
def toolPrompt? (settings : Settings) (assistant? : Option Assistant) : Option Prompt :=
  if settings.overlay.describeTools && settings.overlay.useModel then
    (assistant?.bind Assistant.prompts?).bind Prompts.tool?
  else none

/-- What a model is asked about the task of an agent. -/
def agentQuestion? (assistant? : Option Assistant) (title : String) (tools : List Tool) :
    Option Question :=
  ((assistant?.bind Assistant.prompts?).bind Prompts.agent?).map fun prompt =>
    prompt.question [("title", title), ("tools", Text.join "\n" (tools.map Tool.listed))]

/-- The task of an agent: to use the tools, which are listed. -/
def agentTask (title : String) (tools : List Tool) : String :=
  "You are an assistant for the " ++ title ++ " API. Use the available tools to fulfil requests "
    ++ "and report results accurately. Available tools:"
    ++ String.join (tools.map fun tool => "\n" ++ tool.listed)

end Project

/-- What a model has written for a project. -/
structure ProjectTexts where
  /-- The descriptions of the tools, in order. -/
  descriptions : List (Option String)
  /-- The task of the agent. -/
  agentTask : String
  /-- The tokens of each call that counts. -/
  usages : List TokenUsage
  /-- What the model was asked, in order. -/
  questions : List Question

namespace ProjectTexts

/-- The texts for a project, where a number of questions have been asked before.  A call about the
agent counts only where its answer is used. -/
def write (settings : Settings) (assistant? : Option Assistant) (asked : Nat) (title : String)
    (tools : List Tool) : ProjectTexts :=
  let model := (assistant?.map Assistant.model).getD .silent
  let toolQuestions := tools.map (Tool.question? (Project.toolPrompt? settings assistant?))
  let replies := model.replies asked toolQuestions
  let asked := asked + (toolQuestions.filterMap id).length
  let agentQuestion? :=
    if settings.generateAgent then Project.agentQuestion? assistant? title tools else none
  let agentReply? := (agentQuestion?.bind (model asked)).bind fun reply =>
    reply.text?.map (·, reply.usage)
  { descriptions := replies.map Tool.written?
    agentTask := (agentReply?.map (·.1)).getD (Project.agentTask title tools)
    usages := replies.filterMap (·.map Reply.usage) ++ (agentReply?.map (·.2)).toList
    questions := toolQuestions.filterMap id ++ agentQuestion?.toList }

end ProjectTexts

end ApiTools
