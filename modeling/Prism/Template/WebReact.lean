import Prism.Template.Basic
import Prism.Template.Context

namespace Prism.Template.WebReact

def component : Template EntityContext := parts [
  parts [
    "// ", .hole (·.trace), "\n",
    "import React, \x7b useState \x7d from 'react';\n",
    "import type \x7b ", .hole (·.entity.className), " \x7d from '../models/",
    .hole (·.entity.className), "';\n",
    "\n",
    "export type ", .hole (·.entity.className), "ErrorCode = ",
    .joined " | " (·.errors) (parts ["'", .hole (·.2), "'"]), ";\n",
    "\n",
    "async function request(method: string, path: string, body?: unknown) \x7b\n",
    "  const response = await fetch(path, \x7b\n",
    "    method,\n",
    "    headers: \x7b 'Content-Type': 'application/json' \x7d,\n",
    "    body: body === undefined ? undefined : JSON.stringify(body),\n",
    "  \x7d);\n",
    "  if (response.status === 404) throw new Error('NOT_FOUND');\n",
    "  if (response.status === 422) throw new Error('INVALID_INPUT');\n",
    .only (·.needsAuthorization) (parts [
      "  if (response.status === 401) throw new Error('UNAUTHORIZED');\n"]),
    "  return response.status === 204 ? undefined : response.json();\n",
    "\x7d\n",
    "\n"],
  parts [
    "export const ", .hole (·.entity.varName), "Api = \x7b\n",
    .each (·.operations) (parts [
      "  ", .hole (·.2.name), ": (id = '', body?: Partial<", .hole (·.1.entity.className), ">) =>\n",
      "    request('", .hole (·.2.method), "', '",
      .hole (·.2.route), "'.replace('\x7bid\x7d', id), body),\n"]),
    "\x7d;\n",
    "\n",
    "export function ", .hole (·.entity.className),
    "Form(\x7b initial \x7d: \x7b initial?: Partial<", .hole (·.entity.className), "> \x7d) \x7b\n",
    "  const [values, setValues] = useState<Partial<", .hole (·.entity.className),
    ">>(initial ?? \x7b\x7d);\n",
    "  const [error, setError] = useState<string | null>(null);\n",
    "\n",
    "  const submit = async (event: React.FormEvent) => \x7b\n",
    "    event.preventDefault();\n",
    "    try \x7b\n",
    "      await ", .hole (·.entity.varName), "Api.create('', values);\n",
    "    \x7d catch (caught) \x7b\n",
    "      setError((caught as Error).message);\n",
    "    \x7d\n",
    "  \x7d;\n",
    "\n"],
  parts [
    "  return (\n",
    "    <form onSubmit=\x7bsubmit\x7d>\n",
    .each (·.fields) (parts [
      "      <label>\n",
      "        ", .hole (·.2.text), "\n",
      "        <input\n",
      "          name=\"", .hole (·.2.name), "\"\n",
      "          value=\x7bString(values.", .hole (·.2.name), " ?? '')\x7d\n",
      "          onChange=\x7b(event) => setValues(\x7b ...values, ",
      .hole (·.2.name), ": event.target.value as never \x7d)\x7d\n",
      .only (·.2.required) "          required\n",
      "        />\n",
      "      </label>\n"]),
    "      \x7berror && <p role=\"alert\">\x7berror\x7d</p>\x7d\n",
    "      <button type=\"submit\">Save ", .hole (·.entity.name), "</button>\n",
    "    </form>\n",
    "  );\n",
    "\x7d"]]

def model : Template EntityContext := parts [
  "// ", .hole (·.trace), "\n",
  .each (·.entity.relatedClasses) (parts [
    "import type \x7b ", .hole (·.2), " \x7d from './", .hole (·.2), "';\n"]),
  .only (!·.entity.description.isEmpty) (parts ["/** ", .hole (·.entity.description), " */\n"]),
  "export interface ", .hole (·.entity.className), " \x7b\n",
  .each (·.fields) (parts [
    "  ", .hole (·.2.name), .hole (fun (_, field) => if field.required then "" else "?"), ": ",
    .hole (·.2.nativeType), ";\n"]),
  .each (·.entity.relationships) (parts [
    "  ", .hole (·.2.name), "?: ", .hole (·.2.targetClass),
    .hole (fun (_, relation) => if relation.many then "[]" else ""), ";\n"]),
  "\x7d\n",
  "\n",
  "export const ", .hole (·.entity.varName), "RequiredFields = [",
  .joined ", " (·.requiredFields) (parts ["'", .hole (·.2.name), "'"]), "] as const;"]

def page : Template PageContext := parts [
  "// ", .hole (·.trace), "\n",
  "'use client';\n",
  "\n",
  .only (!·.flow.description.isEmpty) (parts ["/** ", .hole (·.flow.description), " */\n"]),
  "export const ", .hole (·.flow.varName), "Route = '/", .hole (·.flow.route), "';\n",
  .only (!·.flow.roles.isEmpty) (parts ["export const ", .hole (·.flow.varName), "Roles = [",
    .joined ", " (·.flow.roles) (parts ["'", .hole (·.2), "'"]), "];\n"]),
  "\n",
  "type StepContext = Record<string, unknown>;\n",
  "\n",
  .each (·.steps) (parts [
    "// step ", .hole (·.2.id), " (", .hole (·.2.type), ")", .only (!·.2.entityClass.isEmpty) (parts [
      " on ", .hole (·.2.entityClass)]), "\n",
    "export async function ", .hole (·.2.handler), "(context: StepContext): Promise<StepContext> \x7b\n",
    .each (·.2.nextHandlers) (parts ["  await ", .hole (·.2), "(context);\n"]),
    "  return \x7b ...context, completed: '", .hole (·.2.id), "' \x7d;\n",
    "\x7d\n",
    "\n"]),
  "export default function ", .hole (·.flow.className), "Page() \x7b\n",
  "  return <main data-flow=\"", .hole (·.flow.id), "\">", .hole (·.flow.name), "</main>;\n",
  "\x7d"]

def service : Template ServiceContext := parts [
  "// ", .hole (·.trace), "\n",
  .each (·.component.dependencies) (parts [
    "import \x7b ", .hole (·.2), " \x7d from './", .hole (Words.camel ·.2), "';\n"]),
  "\n",
  "/**\n",
  " * ", .hole (·.component.name), " (", .hole (·.component.type),
  .only (!·.component.layer.isEmpty) (parts [", ", .hole (·.component.layer), " layer"]), ")\n",
  .each (·.component.responsibilities) (parts [" * - ", .hole (·.2), "\n"]),
  " */\n",
  "export class ", .hole (·.component.className), " \x7b\n",
  .only (!·.component.dependencies.isEmpty) (parts ["  constructor(\n",
    .each (·.component.dependencies) (parts [
      "    private readonly ", .hole (Words.camel ·.2), ": ", .hole (·.2), ",\n"]),
    "  ) \x7b\x7d\n",
    "\n"]),
  "  async execute(payload: Record<string, unknown>): ", "Promise<Record<string, unknown>> \x7b\n",
  "    return \x7b ...payload, handledBy: '", .hole (·.component.id), "' \x7d;\n",
  "  \x7d\n",
  "\x7d"]

def repository : Template PolicyContext := parts [
  "// ", .hole (·.trace), "\n",
  "export type PolicyAction = 'encrypt' | 'authorize' | 'validate' | 'transform';\n",
  "\n",
  "export interface PolicyRule \x7b\n",
  "  id: string;\n",
  "  action: PolicyAction;\n",
  "  location: string;\n",
  "  severity: string;\n",
  "\x7d\n",
  "\n",
  "export const dataAccessPolicy: PolicyRule[] = [\n",
  .each (·.rules) (parts [
    "  \x7b id: '", .hole (·.2.id), "', action: '", .hole (·.2.keyword), "', location: '",
    .hole (·.2.location), "', severity: '", .hole (·.2.severity), "' \x7d,\n"]),
  "];\n",
  "\n",
  .each (·.rules) (parts [
    "// ", .hole (·.2.id), ": ", .hole (·.2.name), .only (!·.2.framework.isEmpty) (parts [
      " [", .hole (·.2.framework), "]"]), "\n",
    "export function ", .hole (·.2.function),
    "(record: Record<string, unknown>): Record<string, unknown> \x7b\n",
    "  return \x7b ...record, policy: '", .hole (·.2.id), "', action: '", .hole (·.2.keyword), "' \x7d;\n",
    "\x7d\n",
    "\n"])]

end Prism.Template.WebReact
