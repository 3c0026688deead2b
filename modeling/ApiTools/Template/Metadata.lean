import ApiTools.Template

/-!
# Templates of the files beside the packages
-/

namespace ApiTools.Template

/-- The description of the project for its build. -/
def projectFile : Template := [
  .text "[project]\nname = \"", .plain ["package"], .text "\"\nversion = \"", .plain ["version"],
  .text "\"\ndescription = ", .quoted ["description"], .text "\nauthors = [\x7b name = ",
  .quoted ["author"], .when (.holds ["email"]) [.text ", email = ", .quoted ["email"]],
  .text " \x7d]\nlicense = \x7b text = ", .quoted ["license"],
  .text " \x7d\nrequires-python = \">=", .plain ["python_version"],
  .lines [
    "\"",
    "dependencies = [",
    "    \"httpx>=0.27\",",
    "    \"mcp>=1.2\",",
    "    \"pydantic>=2.0\",",
    "    \"python-dotenv>=1.0\",",
    "]",
    "",
    "[project.scripts]"],
  .plain ["package"], .text " = \"", .plain ["package"],
  .lines [
    ".server:main\"",
    "",
    "[build-system]",
    "requires = [\"hatchling\"]",
    "build-backend = \"hatchling.build\"",
    "",
    "[tool.hatch.build.targets.wheel]"],
  .text "packages = [",
  .each "p" ["packages"] [.text "\"", .plain ["p"], .text "\"", .when .notLast [.text ", "]],
  .lines ["]", "", "[tool.ruff]", "line-length = 100"]]

/-- An example of the environment. -/
def environment : Template := [
  .plain ["env_prefix"], .text "_API_URL=", .plain ["base_url"], .text "\n",
  .plain ["env_prefix"], .text "_TOKEN=your_api_token_here\n"]

/-- What the project is and how it is used. -/
def readme : Template := [
  .text "# ", .plain ["title"], .text " MCP Server\n\n",
  .plain ["description"], .text "\n\nThis Model Context Protocol server was generated from the ",
  .plain ["title"],
  .lines [
    " OpenAPI specification.",
    "",
    "## Setup",
    "",
    "1. Copy `.env.example` to `.env` and fill in the API URL and token:",
    "",
    "```bash",
    "cp .env.example .env",
    "```",
    "",
    "2. Install dependencies and run the server:",
    "",
    "```bash",
    "uv sync"],
  .text "uv run ", .plain ["package"], .lines ["", "```", "", "## Available Tools"],
  .each "tool" ["tools"] [
    .text "\n### `", .plain ["tool", "name"], .text "`\n\n`", .plain ["tool", "method"],
    .text " ", .plain ["tool", "path"], .text "`\n",
    .when (.holds ["tool", "description"])
      [.text "\n", .plain ["tool", "description"], .text "\n"]],
  .text "\n"]

end ApiTools.Template
