import ApiTools.Template

/-!
# Templates of the server package

The HTTP client, the modules of tools, the server that registers the tools, and the marker of a
package.
-/

namespace ApiTools.Template

/-- The HTTP client. -/
def client : Template := [
  .text "\"\"\"HTTP client for the ", .plain ["title"],
  .lines [
    " API.\"\"\"",
    "",
    "import logging",
    "import os",
    "from typing import Any, Dict, Optional, Tuple",
    "",
    "import httpx",
    "from dotenv import load_dotenv",
    "",
    "load_dotenv()",
    ""],
  .text "API_URL = os.getenv(\"", .plain ["env_prefix"], .text "_API_URL\", ",
  .quoted ["base_url"], .text ").rstrip(\"/\")\nAPI_TOKEN = os.getenv(\"", .plain ["env_prefix"],
  .lines [
    "_TOKEN\", \"\")",
    "",
    "logger = logging.getLogger(__name__)",
    "",
    "",
    "def assemble_nested_body(flat_body: Dict[str, Any]) -> Dict[str, Any]:",
    "    \"\"\"",
    "    Rebuild a nested JSON body from flattened keys.",
    "",
    "    Keys use \"__\" between nesting levels, so \x7b\"spec__replicas\": 2\x7d",
    "    becomes \x7b\"spec\": \x7b\"replicas\": 2\x7d\x7d.",
    "    \"\"\"",
    "    nested: Dict[str, Any] = \x7b\x7d",
    "    for key, value in flat_body.items():",
    "        parts = key.split(\"__\")",
    "        current = nested",
    "        for part in parts[:-1]:",
    "            current = current.setdefault(part, \x7b\x7d)",
    "        current[parts[-1]] = value",
    "    return nested",
    "",
    "",
    "async def make_api_request(",
    "    path: str,",
    "    method: str = \"GET\",",
    "    token: Optional[str] = None,",
    "    params: Optional[Dict[str, Any]] = None,",
    "    data: Any = None,",
    "    timeout: int = 30,",
    ") -> Tuple[bool, Dict[str, Any]]:",
    "    \"\"\"",
    "    Make a request to the API.",
    "",
    "    Returns:",
    "        Tuple of (success, data) where data is the decoded JSON response",
    "        or an error dict.",
    "    \"\"\"",
    "    token = token or API_TOKEN",
    "    headers = \x7b\"Accept\": \"application/json\", "
      ++ "\"Content-Type\": \"application/json\"\x7d",
    "    if token:",
    "        headers[\"Authorization\"] = f\"Bearer \x7btoken\x7d\"",
    "",
    "    url = f\"\x7bAPI_URL\x7d/\x7bpath.lstrip('/')\x7d\"",
    "    logger.debug(\"%s %s params=%s\", method, url, params)",
    "",
    "    try:",
    "        async with httpx.AsyncClient(timeout=timeout) as client:",
    "            request_kwargs: Dict[str, Any] = \x7b\"headers\": headers, "
      ++ "\"params\": params or \x7b\x7d\x7d",
    "            if method in (\"POST\", \"PUT\", \"PATCH\") and data is not None:",
    "                request_kwargs[\"json\"] = data",
    "            response = await client.request(method, url, **request_kwargs)",
    "    except httpx.TimeoutException:",
    "        logger.error(\"Request timed out after %s seconds\", timeout)",
    "        return False, \x7b\"error\": f\"Request timed out after \x7btimeout\x7d seconds\"\x7d",
    "    except httpx.RequestError as e:",
    "        message = str(e)",
    "        if token:",
    "            message = message.replace(token, \"[REDACTED]\")",
    "        logger.error(\"Request error: %s\", message)",
    "        return False, \x7b\"error\": f\"Request error: \x7bmessage\x7d\"\x7d",
    "",
    "    if response.status_code == 204:",
    "        return True, \x7b\"status\": \"success\"\x7d",
    "    if 200 <= response.status_code < 300:",
    "        try:",
    "            return True, response.json()",
    "        except ValueError:",
    "            return True, \x7b\"status\": \"success\", \"raw_response\": response.text\x7d",
    "",
    "    error_message = f\"API request failed: \x7bresponse.status_code\x7d\"",
    "    try:",
    "        details = response.json()",
    "    except ValueError:",
    "        return False, \x7b\"error\": "
      ++ "f\"\x7berror_message\x7d - \x7bresponse.text[:200]\x7d\"\x7d",
    "    if isinstance(details, dict):",
    "        reason = details.get(\"error\") or details.get(\"message\")",
    "        if reason:",
    "            error_message = f\"\x7berror_message\x7d - \x7breason\x7d\"",
    "    logger.error(error_message)",
    "    return False, \x7b\"error\": error_message, \"details\": details\x7d"]]

/-- The marker of a package, with its version where it has one and with what it exports. -/
def package : Template := [
  .text "\"\"\"", .docstring ["doc"], .text "\"\"\"",
  .when (.isDefined ["version"]) [.text "\n\n__version__ = ", .quoted ["version"]],
  .when (.holds ["exports"]) [
    .text "\n\n__all__ = [",
    .each "name" ["exports"] [.text "\n    ", .quoted ["name"], .text ","],
    .text "\n]"],
  .text "\n"]

/-- The descriptions of the arguments of a tool. -/
def toolArguments : List Part := [
  .when (.holds ["f", "params_info"]) [
    .text "\n\n    Args:",
    .each "p" ["f", "params_info"] [
      .text "\n        ", .plain ["p", "name"], .text " (", .plain ["p", "type"], .text "): ",
      .docstring ["p", "description"]]]]

/-- The lines that put the query together. -/
def toolQuery : List Part := [
  .each "q" ["f", "query"] [
    .choice (.holds ["q", "omit_false"])
      [.text "\n    if ", .plain ["q", "name"], .text ":"]
      [.text "\n    if ", .plain ["q", "name"], .text " is not None:"],
    .text "\n        params[", .quoted ["q", "key"], .text "] = ",
    .choice (.holds ["q", "is_bool"])
      [.text "str(", .plain ["q", "name"], .text ").lower()"]
      [.plain ["q", "name"]]]]

/-- The lines that put the body together: the argument for the whole of it, else the arguments for
its fields. -/
def toolBody : List Part := [
  .choice (.holds ["f", "root_body"])
    [.text "\n    data = ", .plain ["f", "root_body"]]
    [.choice (.holds ["f", "body"])
      [.text "\n    flat_body: Dict[str, Any] = \x7b\x7d",
        .each "b" ["f", "body"] [
          .text "\n    if ", .plain ["b", "name"], .text " is not None:\n        flat_body[",
          .quoted ["b", "key"], .text "] = ", .plain ["b", "name"]],
        .text "\n    data = assemble_nested_body(flat_body)"]
      [.text "\n    data = None"]]]

/-- The definition of a tool. -/
def toolDefinition : List Part :=
  [.text "\n\nasync def ", .plain ["f", "name"], .text "(", .plain ["f", "signature"],
    .text ") -> Dict[str, Any]:\n    \"\"\"\n    ", .docstring ["f", "docstring"]]
  ++ toolArguments
  ++ [.lines [
      "",
      "",
      "    Returns:",
      "        Dict[str, Any]: The JSON response from the API call.",
      "    \"\"\""],
    .text "    logger.debug(\"Making %s request to %s\", ", .quoted ["f", "method"], .text ", ",
    .quoted ["f", "http_path"], .text ")\n    params: Dict[str, Any] = \x7b\x7d"]
  ++ toolQuery ++ toolBody
  ++ [.text "\n\n    success, response = await make_api_request(\n        f",
    .quoted ["f", "formatted_path"], .text ",\n        method=", .quoted ["f", "method"],
    .lines [
      ",",
      "        params=params,",
      "        data=data,",
      "    )",
      "    if not success:",
      "        logger.error(\"Request failed: %s\", response.get(\"error\"))",
      "        return \x7b\"error\": response.get(\"error\", \"Request failed\")\x7d",
      "    return response"]]

/-- A module of tools. -/
def tools : Template := [
  .text "\"\"\"Tools for ", .plain ["path"],
  .lines [
    " operations.\"\"\"",
    "",
    "import logging",
    "from typing import Any, Dict, List, Literal, Optional",
    ""],
  .text "from ", .plain ["package"],
  .lines [
    ".api.client import assemble_nested_body, make_api_request",
    "",
    "logger = logging.getLogger(__name__)"],
  .each "f" ["functions"] toolDefinition,
  .text "\n"]

/-- The server, which registers every tool. -/
def server : Template := [
  .text "#!/usr/bin/env python3\n\"\"\"\n",
  .plain ["title"], .text " MCP Server\n\nExposes the ", .plain ["title"],
  .lines [
    " API to language models as Model Context Protocol tools.",
    "\"\"\"",
    "",
    "import logging",
    "",
    "from dotenv import load_dotenv",
    "from mcp.server.fastmcp import FastMCP"],
  .each "m" ["modules"] [
    .text "\nfrom ", .plain ["package"], .text ".tools import ", .plain ["m", "module"]],
  .lines ["", "", "load_dotenv()", "", "logging.basicConfig(level=logging.INFO)", ""],
  .text "mcp = FastMCP(", .quoted ["server_name"], .text ")\n",
  .each "m" ["modules"] [
    .text "\n# ", .plain ["m", "module"],
    .each "name" ["m", "functions"] [
      .text "\nmcp.tool()(", .plain ["m", "module"], .text ".", .plain ["name"], .text ")"],
    .text "\n"],
  .lines [
    "",
    "",
    "def main() -> None:",
    "    mcp.run()",
    "",
    "",
    "if __name__ == \"__main__\":",
    "    main()"]]

end ApiTools.Template
