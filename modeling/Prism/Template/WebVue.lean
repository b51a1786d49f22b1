import Prism.Template.Basic
import Prism.Template.Context

namespace Prism.Template.WebVue

def component : Template EntityContext := parts [
  parts [
    "<!-- ", .hole (·.trace), " -->\n",
    "<script setup lang=\"ts\">\n",
    "import \x7b reactive, ref \x7d from 'vue';\n",
    "import type \x7b ", .hole (·.entity.className), " \x7d from '../models/",
    .hole (·.entity.className), "';\n",
    "\n",
    "const props = defineProps<\x7b initial?: Partial<", .hole (·.entity.className), "> \x7d>();\n",
    "const values = reactive<Partial<", .hole (·.entity.className),
    ">>(\x7b ...(props.initial ?? \x7b\x7d) \x7d);\n",
    "const error = ref<string | null>(null);\n",
    "const errorCodes = [", .joined ", " (·.errors) (parts ["'", .hole (·.2), "'"]), "] as const;\n",
    "\n"],
  parts [
    "async function request(method: string, path: string, body?: unknown) \x7b\n",
    "  const response = await fetch(path, \x7b\n",
    "    method,\n",
    "    headers: \x7b 'Content-Type': 'application/json' \x7d,\n",
    "    body: body === undefined ? undefined : JSON.stringify(body),\n",
    "  \x7d);\n",
    "  if (response.status === 404) throw new Error(errorCodes[0]);\n",
    "  if (response.status === 422) throw new Error('INVALID_INPUT');\n",
    .only (·.needsAuthorization) (parts [
      "  if (response.status === 401) throw new Error('UNAUTHORIZED');\n"]),
    "  return response.status === 204 ? undefined : response.json();\n",
    "\x7d\n",
    "\n",
    "const ", .hole (·.entity.varName), "Api = \x7b\n",
    .each (·.operations) (parts [
      "  ", .hole (·.2.name), ": (id = '', body?: Partial<", .hole (·.1.entity.className), ">) =>\n",
      "    request('", .hole (·.2.method), "', '",
      .hole (·.2.route), "'.replace('\x7bid\x7d', id), body),\n"]),
    "\x7d;\n",
    "\n"],
  parts [
    "async function submit() \x7b\n",
    "  try \x7b\n",
    "    await ", .hole (·.entity.varName), "Api.create('', values);\n",
    "  \x7d catch (caught) \x7b\n",
    "    error.value = (caught as Error).message;\n",
    "  \x7d\n",
    "\x7d\n",
    "</script>\n",
    "\n",
    "<template>\n",
    "  <form @submit.prevent=\"submit\">\n",
    .each (·.fields) (parts [
      "    <label>\n",
      "      ", .hole (·.2.text), "\n",
      "      <input name=\"", .hole (·.2.name), "\" v-model=\"values.", .hole (·.2.name), "\"",
      .hole (fun (_, field) => if field.required then " required" else ""), " />\n",
      "    </label>\n"]),
    "    <p v-if=\"error\" role=\"alert\" v-text=\"error\"></p>\n",
    "    <button type=\"submit\">Save ", .hole (·.entity.name), "</button>\n",
    "  </form>\n",
    "</template>"]]

def page : Template PageContext := parts [
  "<!-- ", .hole (·.trace), " -->\n",
  "<script setup lang=\"ts\">\n",
  .only (!·.flow.description.isEmpty) (parts ["// ", .hole (·.flow.description), "\n"]),
  "type StepContext = Record<string, unknown>;\n",
  "\n",
  "const route = '/", .hole (·.flow.route), "';\n",
  .only (!·.flow.roles.isEmpty) (parts ["const roles = [",
    .joined ", " (·.flow.roles) (parts ["'", .hole (·.2), "'"]), "];\n"]),
  "\n",
  .each (·.steps) (parts [
    "// step ", .hole (·.2.id), " (", .hole (·.2.type), ")", .only (!·.2.entityClass.isEmpty) (parts [
      " on ", .hole (·.2.entityClass)]), "\n",
    "async function ", .hole (·.2.handler), "(context: StepContext): Promise<StepContext> \x7b\n",
    .each (·.2.nextHandlers) (parts ["  await ", .hole (·.2), "(context);\n"]),
    "  return \x7b ...context, completed: '", .hole (·.2.id), "' \x7d;\n",
    "\x7d\n",
    "\n"]),
  "defineExpose(\x7b route", .each (·.steps) (parts [", ", .hole (·.2.handler)]), " \x7d);\n",
  "</script>\n",
  "\n",
  "<template>\n",
  "  <main data-flow=\"", .hole (·.flow.id), "\">", .hole (·.flow.name), "</main>\n",
  "</template>"]

end Prism.Template.WebVue
