import Prism.Template.Basic
import Prism.Template.Context
import Prism.Template.Literal

namespace Prism.Template.BackendNode

def component : Template EntityContext := parts [
  parts [
    "// ", .hole (·.trace), "\n",
    "import \x7b NextFunction, Request, Response, Router \x7d from 'express';\n",
    "import type \x7b ", .hole (·.entity.className), " \x7d from '../models/",
    .hole (·.entity.className), "';\n",
    "\n",
    "export type ", .hole (·.entity.className), "ErrorCode = ",
    .joined " | " (·.errors) (parts ["'", .hole (·.2), "'"]), ";\n",
    "\n",
    "export class ", .hole (·.entity.className), "Error extends Error \x7b\n",
    "  constructor(readonly code: ", .hole (·.entity.className), "ErrorCode, readonly status: number) \x7b\n",
    "    super(code);\n",
    "  \x7d\n",
    "\x7d\n",
    "\n"],
  parts [
    "const requiredFields: Array<keyof ", .hole (·.entity.className), "> = [",
    .joined ", " (·.requiredFields) (parts ["'", .hole (·.2.name), "'"]), "];\n",
    "const store = new Map<string, Partial<", .hole (·.entity.className), ">>();\n",
    "\n",
    "function validate(body: Partial<", .hole (·.entity.className), ">): Partial<",
    .hole (·.entity.className), "> \x7b\n",
    "  for (const name of requiredFields) \x7b\n",
    "    if (body[name] === undefined) throw new ", .hole (·.entity.className),
    "Error('INVALID_INPUT', 422);\n",
    "  \x7d\n",
    "  return body;\n",
    "\x7d\n",
    "\n"],
  parts [
    "function find(id: string): Partial<", .hole (·.entity.className), "> \x7b\n",
    "  const record = store.get(id);\n",
    "  if (!record) throw new ", .hole (·.entity.className), "Error('NOT_FOUND', 404);\n",
    "  return record;\n",
    "\x7d\n",
    "\n"],
  parts [
    "export const ", .hole (·.entity.varName), "Controller = \x7b\n",
    "  list: async (_req: Request, res: Response) => res.json([...store.values()]),\n",
    "  get: async (req: Request, res: Response) => res.json(find(req.params.id)),\n",
    "  create: async (req: Request, res: Response) => \x7b\n",
    "    const id = String(store.size + 1);\n",
    "    store.set(id, validate(req.body));\n",
    "    res.status(201).json(\x7b id, ...store.get(id) \x7d);\n",
    "  \x7d,\n",
    "  update: async (req: Request, res: Response) => \x7b\n",
    "    find(req.params.id);\n",
    "    store.set(req.params.id, validate(req.body));\n",
    "    res.json(store.get(req.params.id));\n",
    "  \x7d,\n",
    "  delete: async (req: Request, res: Response) => \x7b\n",
    "    find(req.params.id);\n",
    "    store.delete(req.params.id);\n",
    "    res.status(204).end();\n",
    "  \x7d,\n",
    "\x7d;\n",
    "\n"],
  parts [
    "export const ", .hole (·.entity.varName), "Router = Router()\n",
    .each (·.operations) (parts [
      "  .", .hole (small ·.2.method), "('",
      .hole (fun (_, operation) => Text.replaceAll "\x7bid\x7d" ":id" operation.route), "', ",
      .hole (·.1.entity.varName), "Controller.", .hole (·.2.name), ")\n"]),
    "  .use((error: Error, _req: Request, res: Response, _next: NextFunction) => \x7b\n",
    .only (·.needsAuthorization) (parts ["    if (error.message === 'UNAUTHORIZED') return ",
      "res.status(401).json(\x7b code: 'UNAUTHORIZED' \x7d);\n"]),
    "    const status = error instanceof ", .hole (·.entity.className), "Error ? error.status : 500;\n",
    "    return res.status(status).json(\x7b code: error.message \x7d);\n",
    "  \x7d);"]]

def page : Template PageContext := parts [
  "// ", .hole (·.trace), "\n",
  "import \x7b Request, Response, Router \x7d from 'express';\n",
  "\n",
  "type StepContext = Record<string, unknown>;\n",
  "\n",
  .only (!·.flow.description.isEmpty) (parts ["/** ", .hole (·.flow.description), " */\n"]),
  .only (!·.flow.roles.isEmpty) (parts ["export const ", .hole (·.flow.varName), "Roles = [",
    .joined ", " (·.flow.roles) (parts ["'", .hole (·.2), "'"]), "];\n",
    "\n"]),
  .each (·.steps) (parts [
    "// step ", .hole (·.2.id), " (", .hole (·.2.type), ")", .only (!·.2.entityClass.isEmpty) (parts [
      " on ", .hole (·.2.entityClass)]), "\n",
    "export async function ", .hole (·.2.handler), "(context: StepContext): Promise<StepContext> \x7b\n",
    .each (·.2.nextHandlers) (parts ["  await ", .hole (·.2), "(context);\n"]),
    "  return \x7b ...context, completed: '", .hole (·.2.id), "' \x7d;\n",
    "\x7d\n",
    "\n"]),
  "export const ", .hole (·.flow.varName), "Router = Router().post('/", .hole (·.flow.route),
  "', async (req: Request, res: Response) => \x7b\n",
  "  let context: StepContext = \x7b ...req.body \x7d;\n",
  .each (·.entrySteps) (parts [
    "  context = await ", .hole (·.2.handler), "(context);\n"]),
  "  res.json(context);\n",
  "\x7d);"]

end Prism.Template.BackendNode
