import ApiTools.Template

/-!
# Templates of the data models
-/

namespace ApiTools.Template

/-- The models that others build on. -/
def baseModels : Template := [
  .text "\"\"\"Base models for the ", .plain ["title"],
  .lines [
    " API.\"\"\"",
    "",
    "from typing import Any, Dict, Optional",
    "",
    "from pydantic import BaseModel",
    "",
    "",
    "class APIResponse(BaseModel):",
    "    \"\"\"Base model for API responses.\"\"\"",
    "",
    "    success: bool = True",
    "    data: Optional[Dict[str, Any]] = None",
    "    error: Optional[str] = None",
    "",
    "",
    "class PaginationInfo(BaseModel):",
    "    \"\"\"Pagination information.\"\"\"",
    "",
    "    offset: Optional[int] = None",
    "    limit: Optional[int] = None",
    "    total: Optional[int] = None",
    "    more: Optional[bool] = None"]]

/-- The definition of a field. -/
def modelField : List Part := [
  .choice (.holds ["field", "required"])
    [.text "\n    ", .plain ["field", "name"], .text ": ", .plain ["field", "type"],
      .when (.holds ["field", "alias"])
        [.text " = Field(alias=", .quoted ["field", "alias"], .text ")"]]
    [.text "\n    ", .plain ["field", "name"], .text ": Optional[", .plain ["field", "type"],
      .text "] = ",
      .choice (.holds ["field", "alias"])
        [.text "Field(default=None, alias=", .quoted ["field", "alias"], .text ")"]
        [.text "None"]],
  .when (.holds ["field", "description"])
    [.text "\n    \"\"\"", .docstring ["field", "description"], .text "\"\"\""],
  .text "\n"]

/-- The module of one schema. -/
def model : Template := [
  .text "\"\"\"Model for ", .plain ["schema_name"],
  .lines [
    ".\"\"\"",
    "",
    "from typing import Any, Dict, List, Literal, Optional",
    "",
    "from pydantic import BaseModel, Field",
    "",
    "from .base import APIResponse, PaginationInfo",
    "",
    ""],
  .text "class ", .plain ["class_name"], .text "(BaseModel):\n    \"\"\"",
  .docstring ["description"], .text "\"\"\"\n",
  .each "field" ["fields"] modelField,
  .text "\n\nclass ", .plain ["class_name"],
  .text "Response(APIResponse):\n    \"\"\"Response model for ", .plain ["class_name"],
  .text ".\"\"\"\n\n    data: Optional[", .plain ["class_name"], .lines ["] = None", "", ""],
  .text "class ", .plain ["class_name"],
  .text "ListResponse(APIResponse):\n    \"\"\"List response model for ", .plain ["class_name"],
  .text ".\"\"\"\n\n    data: List[", .plain ["class_name"],
  .text "] = Field(default_factory=list)\n",
  .text "    pagination: Optional[PaginationInfo] = None\n"]

end ApiTools.Template
