import Prism.Template.Basic
import Prism.Template.Context
import Prism.Template.Literal

namespace Prism.Template.BackendPython

def component : Template EntityContext := parts [
  parts [
    "# ", .hole (·.trace), "\n",
    "from __future__ import annotations\n",
    "\n",
    "from typing import Any, Dict\n",
    "\n",
    "from fastapi import APIRouter, HTTPException\n",
    "\n",
    "from app.models.", .hole (·.entity.moduleName), " import ", .hole (·.entity.className), "\n",
    "\n",
    "router = APIRouter(tags=[", .hole (fun c => scriptLiteral c.entity.name), "])\n",
    "\n",
    "ERROR_CODES = (", .each (·.errors) (parts [.hole (scriptLiteral ·.2), ", "]), ")\n",
    "\n",
    "_store: Dict[str, Dict[str, Any]] = \x7b\x7d\n",
    "\n",
    "\n"],
  parts [
    "def _validate(body: Dict[str, Any]) -> Dict[str, Any]:\n",
    "    missing = [name for name in ", .hole (·.entity.className),
    ".REQUIRED_FIELDS if body.get(name) is None]\n",
    "    if missing:\n",
    "        raise HTTPException(status_code=422, detail=\"INVALID_INPUT\")\n",
    "    return body\n",
    "\n",
    "\n",
    "def _find(item_id: str) -> Dict[str, Any]:\n",
    "    if item_id not in _store:\n",
    "        raise HTTPException(status_code=404, detail=\"NOT_FOUND\")\n",
    "    return _store[item_id]\n",
    .only (·.needsAuthorization) (parts ["\n",
      "\n",
      "def _authorize(token: str | None) -> None:\n",
      "    if not token:\n",
      "        raise HTTPException(status_code=401, detail=\"UNAUTHORIZED\")\n"]),
    .each (·.operations) (parts [
      "\n",
      "\n",
      "@router.", .hole (small ·.2.method), "(", .hole (scriptLiteral ·.2.route), ")\n",
      .choose (·.2.operation = .list) (parts [
        "async def list_", .hole (·.1.entity.moduleName), "() -> list:\n",
        "    return list(_store.values())\n"]) <|
      .choose (·.2.operation = .get) (parts [
        "async def get_", .hole (·.1.entity.moduleName), "(id: str) -> Dict[str, Any]:\n",
        "    return _find(id)\n"]) <|
      .choose (·.2.operation = .create) (parts [
        "async def create_", .hole (·.1.entity.moduleName), "(body: Dict[str, Any]) -> Dict[str, Any]:\n",
        "    item_id = str(len(_store) + 1)\n",
        "    _store[item_id] = _validate(body)\n",
        "    return \x7b\"id\": item_id, **_store[item_id]\x7d\n"]) <|
      .choose (·.2.operation = .update) (parts [
        "async def update_", .hole (·.1.entity.moduleName),
        "(id: str, body: Dict[str, Any]) -> Dict[str, Any]:\n",
        "    _find(id)\n",
        "    _store[id] = _validate(body)\n",
        "    return _store[id]\n"]) <|
      parts [
        "async def ", .hole (·.2.name), "_", .hole (·.1.entity.moduleName), "(id: str) -> None:\n",
        "    _find(id)\n",
        "    _store.pop(id, None)\n"]])]]

def model : Template EntityContext := parts [
  "# ", .hole (·.trace), "\n",
  "from __future__ import annotations\n",
  "\n",
  "from dataclasses import dataclass, field\n",
  "from datetime import date, datetime, time\n",
  "from typing import Any, List, Optional\n",
  "\n",
  "\n",
  "@dataclass\n",
  "class ", .hole (·.entity.className), ":\n",
  "    \"\"\"", .hole (fun c => if c.entity.description.isEmpty then c.entity.name else c.entity.description),
  "\"\"\"\n",
  "\n",
  .each (·.requiredFields) (parts [
    "    ", .hole (·.2.name), ": ", .hole (·.2.nativeType), "\n"]),
  .each (·.optionalFields) (parts [
    "    ", .hole (·.2.name), ": Optional[", .hole (·.2.nativeType), "] = None\n"]),
  .each (·.entity.relationships) (parts [
    "    ", .hole (·.2.name), ": ",
    .hole (fun (_, relation) => if relation.many then "List[Any]" else "Optional[Any]"), " = ",
    .hole (fun (_, relation) => if relation.many then "field(default_factory=list)" else "None"), "\n"]),
  "\n",
  "    REQUIRED_FIELDS = (", .each (·.requiredFields) (parts [.hole (scriptLiteral ·.2.name), ", "]), ")"]

def page : Template PageContext := parts [
  parts [
    "# ", .hole (·.trace), "\n",
    "\"\"\"", .hole (·.flow.name),
    .only (!·.flow.description.isEmpty) (parts [": ", .hole (·.flow.description)]), "\"\"\"\n",
    "\n",
    "from __future__ import annotations\n",
    "\n",
    "from typing import Any, Dict\n",
    "\n",
    "from fastapi import APIRouter\n",
    "\n",
    "router = APIRouter()\n",
    "\n",
    "ROUTE = ", .hole (fun c => scriptLiteral ("/" ++ c.flow.route)), "\n",
    "ROLES = (", .each (·.flow.roles) (parts [.hole (scriptLiteral ·.2), ", "]), ")\n",
    "\n",
    "StepContext = Dict[str, Any]\n",
    .each (·.steps) (parts [
      "\n",
      "\n",
      "async def ", .hole (·.2.handler), "(context: StepContext) -> StepContext:\n",
      "    \"\"\"Step ", .hole (·.2.id), " (", .hole (·.2.type), ")",
      .only (!·.2.entityClass.isEmpty) (parts [" on ", .hole (·.2.entityClass)]), ".\"\"\"\n",
      .each (·.2.nextHandlers) (parts [
        "    context = await ", .hole (·.2), "(context)\n"]),
      "    return \x7b**context, \"completed\": ", .hole (scriptLiteral ·.2.id), "\x7d\n"]),
    "\n",
    "\n"],
  parts [
    "@router.post(ROUTE)\n",
    "async def run_", .hole (·.flow.varName), "(context: StepContext) -> StepContext:\n",
    .each (·.entrySteps) (parts [
      "    context = await ", .hole (·.2.handler), "(context)\n"]),
    "    return context"]]

def service : Template ServiceContext := parts [
  "# ", .hole (·.trace), "\n",
  "from __future__ import annotations\n",
  "\n",
  "from typing import Any, Dict\n",
  "\n",
  "\n",
  "class ", .hole (·.component.className), ":\n",
  "    \"\"\"", .hole (·.component.name), " (", .hole (·.component.type),
  .only (!·.component.layer.isEmpty) (parts [", ", .hole (·.component.layer), " layer"]), ").\n",
  .only (!·.component.responsibilities.isEmpty) (parts ["\n",
    .each (·.component.responsibilities) (parts ["    - ", .hole (·.2), "\n"])]),
  "    \"\"\"\n",
  "\n",
  "    def __init__(self", .each (·.component.dependencies) (parts [
    ", ", .hole (Words.snake ·.2), ": ", .hole (·.2)]), ") -> None:\n",
  "        self.component_id = ", .hole (fun c => scriptLiteral c.component.id), "\n",
  .each (·.component.dependencies) (parts [
    "        self.", .hole (Words.snake ·.2), " = ", .hole (Words.snake ·.2), "\n"]),
  "\n",
  "    async def execute(self, payload: Dict[str, Any]) -> Dict[str, Any]:\n",
  "        return \x7b**payload, \"handled_by\": self.component_id\x7d"]

def repository : Template PolicyContext := parts [
  "# ", .hole (·.trace), "\n",
  "from __future__ import annotations\n",
  "\n",
  "from typing import Any, Dict\n",
  "\n",
  "POLICY_RULES = (\n",
  .each (·.rules) (parts [
    "    \x7b\"id\": ", .hole (scriptLiteral ·.2.id), ", \"action\": ",
    .hole (scriptLiteral ·.2.keyword), ", \"location\": ", .hole (scriptLiteral ·.2.location), "\x7d,\n"]),
  ")\n",
  .each (·.rules) (parts [
    "\n",
    "\n",
    "def ", .hole (·.2.function), "(record: Dict[str, Any]) -> Dict[str, Any]:\n",
    "    \"\"\"", .hole (·.2.id), ": ", .hole (·.2.name), .only (!·.2.framework.isEmpty) (parts [
      " [", .hole (·.2.framework), "]"]), ".\"\"\"\n",
    "    return \x7b**record, \"policy\": ", .hole (scriptLiteral ·.2.id),
    ", \"action\": ", .hole (scriptLiteral ·.2.keyword), "\x7d\n"])]

end Prism.Template.BackendPython
