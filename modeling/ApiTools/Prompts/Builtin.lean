import ApiTools.Prompts

/-!
# The prompts that are used where no others are given
-/

namespace ApiTools.Prompts

/-- The lines as a text, each with a line feed. -/
def ofLines (lines : List String) : String := String.join (lines.map (· ++ "\n"))

/-- Asks for the description of an operation. -/
def operationPrompt : Prompt where
  system := ofLines [
    "You are an expert at writing concise, OpenAI-compatible tool descriptions.",
    "Your task is to write clear, brief descriptions that help AI function calling",
    "understand when to use each API operation. Follow these strict rules:",
    "1. Keep descriptions under 250 characters",
    "2. Start with what the operation does (verb + object)",
    "3. Add one use case if space allows: 'Use when: <scenario>'",
    "4. No markdown formatting, bullet points, or special characters",
    "5. No parameter listings in the description",
    "6. Write in plain, direct language"]
  template := ofLines [
    "API: \x7bmethod\x7d \x7bpath\x7d",
    "Operation: \x7boperation_id\x7d",
    "Summary: \x7bsummary\x7d",
    "Original: \x7bdescription\x7d",
    "Path parameters: \x7bpath_params\x7d",
    "Query parameters: \x7bquery_params\x7d",
    "Has request body: \x7bhas_body\x7d",
    "",
    "Write a concise, OpenAI-compatible tool description (max 250 chars, no markdown)."]

/-- Asks for the description of a parameter. -/
def parameterPrompt : Prompt where
  system := ofLines [
    "You are an expert at writing OpenAI-compatible parameter descriptions.",
    "Write clear, brief descriptions for function parameters. Rules:",
    "1. Keep under 100 characters",
    "2. Plain text only, no markdown or special formatting",
    "3. Start with what the parameter does",
    "4. Be specific and actionable"]
  template := ofLines [
    "Parameter: \x7bparam_name\x7d (\x7bparam_type\x7d, in \x7bparam_in\x7d)",
    "Required: \x7bparam_required\x7d",
    "Original: \x7bparam_description\x7d",
    "Context: \x7boperation_context\x7d",
    "",
    "Write a concise parameter description (max 100 chars, plain text)."]

/-- Asks for the description of a tool. -/
def toolPrompt : Prompt where
  system := ofLines [
    "You write one-paragraph Python docstring summaries for API tool functions.",
    "Plain text, at most two sentences, no markdown, no parameter listings."]
  template := ofLines [
    "Function: \x7bfunction_name\x7d",
    "HTTP call: \x7bmethod\x7d \x7bpath\x7d",
    "Parameters: \x7bparams\x7d",
    "",
    "Write the docstring summary."]

/-- Asks for the task of an agent. -/
def agentPrompt : Prompt where
  system := ofLines [
    "You write system prompts for conversational agents that operate an API",
    "through a fixed set of tools. Be direct and list what the agent can do."]
  template := ofLines [
    "API: \x7btitle\x7d",
    "Tools:",
    "\x7btools\x7d",
    "",
    "Write the agent system prompt."]

/-- The prompts that are used where no others are given. -/
def builtin : Prompts := ⟨operationPrompt, parameterPrompt, some toolPrompt, some agentPrompt⟩

end ApiTools.Prompts
