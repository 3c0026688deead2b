import ApiTools.Template

/-!
# Templates of the agent package
-/

namespace ApiTools.Template

/-- The marker of the package. -/
def agentPackage : Template := [
  .text "\"\"\"Conversational agent for the ", .plain ["title"], .text " API.\"\"\"\n\nfrom ",
  .plain ["agent_package"], .text ".prompts import SYSTEM_PROMPT, TOOL_NAMES\n\nMCP_PACKAGE = \"",
  .plain ["package"],
  .lines ["\"", "", "__all__ = [\"MCP_PACKAGE\", \"SYSTEM_PROMPT\", \"TOOL_NAMES\"]"]]

/-- The task of the agent and the names of its tools. -/
def agentPrompts : Template := [
  .text "\"\"\"Prompts for the ", .plain ["title"], .text " agent.\"\"\"\n\nSYSTEM_PROMPT = ",
  .quoted ["system_prompt"], .text "\n\nTOOL_NAMES = [",
  .each "name" ["tools"] [.text "\n    ", .quoted ["name"], .text ","],
  .text "\n]\n"]

end ApiTools.Template
