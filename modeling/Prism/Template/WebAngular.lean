import Prism.Template.Basic
import Prism.Template.Context

namespace Prism.Template.WebAngular

def component : Template EntityContext := parts [
  parts [
    "// ", .hole (·.trace), "\n",
    "import \x7b Component, Injectable, Input \x7d from '@angular/core';\n",
    "import \x7b HttpClient, HttpErrorResponse \x7d from '@angular/common/http';\n",
    "import \x7b Observable, catchError, throwError \x7d from 'rxjs';\n",
    "import \x7b ", .hole (·.entity.className), " \x7d from '../models/",
    .hole (fun c => Words.kebab c.entity.className), ".model';\n",
    "\n",
    "export type ", .hole (·.entity.className), "ErrorCode = ",
    .joined " | " (·.errors) (parts ["'", .hole (·.2), "'"]), ";\n",
    "\n",
    "function toErrorCode(error: HttpErrorResponse): ", .hole (·.entity.className), "ErrorCode \x7b\n",
    .only (·.needsAuthorization) "  if (error.status === 401) return 'UNAUTHORIZED';\n",
    "  return error.status === 404 ? 'NOT_FOUND' : 'INVALID_INPUT';\n",
    "\x7d\n",
    "\n"],
  parts [
    "@Injectable(\x7b providedIn: 'root' \x7d)\n",
    "export class ", .hole (·.entity.className), "Api \x7b\n",
    "  constructor(private readonly http: HttpClient) \x7b\x7d\n",
    "\n",
    "  private send<T>(method: string, path: string, body?: Partial<", .hole (·.entity.className),
    ">): Observable<T> \x7b\n",
    "    return this.http\n",
    "      .request<T>(method, path, \x7b body \x7d)\n",
    "      .pipe(catchError((error: HttpErrorResponse) => throwError(() => ",
    "new Error(toErrorCode(error)))));\n",
    "  \x7d\n",
    "\n",
    .each (·.operations) (parts [
      "  ", .hole (·.2.name), "(id = '', body?: Partial<",
      .hole (·.1.entity.className), ">): Observable<unknown> \x7b\n",
      "    return this.send('", .hole (·.2.method), "', '",
      .hole (·.2.route), "'.replace('\x7bid\x7d', id), body);\n",
      "  \x7d\n",
      "\n"]),
    "\x7d\n",
    "\n"],
  parts [
    "@Component(\x7b\n",
    "  selector: 'app-", .hole (fun c => Words.kebab c.entity.className), "',\n",
    "  template: `\n",
    "    <form (ngSubmit)=\"save()\">\n",
    .each (·.fields) (parts [
      "      <label>", .hole (·.2.text), "\n",
      "        <input name=\"", .hole (·.2.name), "\" [(ngModel)]=\"values.", .hole (·.2.name), "\"",
      .hole (fun (_, field) => if field.required then " required" else ""), " />\n",
      "      </label>\n"]),
    "      <p *ngIf=\"error\" role=\"alert\" [textContent]=\"error\"></p>\n",
    "      <button type=\"submit\">Save ", .hole (·.entity.name), "</button>\n",
    "    </form>\n",
    "  `,\n",
    "\x7d)\n",
    "export class ", .hole (·.entity.className), "Component \x7b\n",
    "  @Input() values: Partial<", .hole (·.entity.className), "> = \x7b\x7d;\n",
    "  error: string | null = null;\n",
    "\n",
    "  constructor(private readonly api: ", .hole (·.entity.className), "Api) \x7b\x7d\n",
    "\n"],
  parts [
    "  save(): void \x7b\n",
    "    this.api.create('', this.values).subscribe(\x7b error: (caught: ",
    "Error) => (this.error = caught.message) \x7d);\n",
    "  \x7d\n",
    "\x7d"]]

def model : Template EntityContext := parts [
  "// ", .hole (·.trace), "\n",
  .each (·.entity.relatedClasses) (parts [
    "import \x7b ", .hole (·.2), " \x7d from './", .hole (Words.kebab ·.2), ".model';\n"]),
  "\n",
  .only (!·.entity.description.isEmpty) (parts ["/** ", .hole (·.entity.description), " */\n"]),
  "export interface ", .hole (·.entity.className), " \x7b\n",
  .each (·.fields) (parts [
    "  ", .hole (·.2.name), .hole (fun (_, field) => if field.required then "" else "?"), ": ",
    .hole (·.2.nativeType), ";\n"]),
  .each (·.entity.relationships) (parts [
    "  ", .hole (·.2.name), "?: ", .hole (·.2.targetClass),
    .hole (fun (_, relation) => if relation.many then "[]" else ""), ";\n"]),
  "\x7d"]

def page : Template PageContext := parts [
  parts [
    "// ", .hole (·.trace), "\n",
    "import \x7b Component \x7d from '@angular/core';\n",
    "import \x7b Routes \x7d from '@angular/router';\n",
    "\n",
    "type StepContext = Record<string, unknown>;\n",
    "\n",
    .only (!·.flow.description.isEmpty) (parts ["/** ", .hole (·.flow.description), " */\n"]),
    "@Component(\x7b\n",
    "  selector: 'app-", .hole (fun c => Words.kebab c.flow.className), "-page',\n",
    "  template: `<main data-flow=\"", .hole (·.flow.id), "\">", .hole (·.flow.name), "</main>`,\n",
    "\x7d)\n",
    "export class ", .hole (·.flow.className), "Page \x7b\n",
    .only (!·.flow.roles.isEmpty) (parts ["  readonly roles = [",
      .joined ", " (·.flow.roles) (parts ["'", .hole (·.2), "'"]), "];\n",
      "\n"]),
    .each (·.steps) (parts [
      "  // step ", .hole (·.2.id), " (", .hole (·.2.type), ")", .only (!·.2.entityClass.isEmpty) (parts [
        " on ", .hole (·.2.entityClass)]), "\n",
      "  async ", .hole (·.2.handler), "(context: StepContext): Promise<StepContext> \x7b\n",
      .each (·.2.nextHandlers) (parts [
        "    await this.", .hole (·.2), "(context);\n"]),
      "    return \x7b ...context, completed: '", .hole (·.2.id), "' \x7d;\n",
      "  \x7d\n",
      "\n"]),
    "\x7d\n",
    "\n"],
  parts [
    "export const ", .hole (·.flow.varName), "Routes: Routes = [\x7b path: '",
    .hole (·.flow.route), "', component: ", .hole (·.flow.className), "Page \x7d];"]]

def service : Template ServiceContext := parts [
  "// ", .hole (·.trace), "\n",
  "import \x7b Injectable \x7d from '@angular/core';\n",
  .each (·.component.dependencies) (parts [
    "import \x7b ", .hole (·.2), " \x7d from './", .hole (Words.kebab ·.2), ".service';\n"]),
  "\n",
  "/**\n",
  " * ", .hole (·.component.name), " (", .hole (·.component.type),
  .only (!·.component.layer.isEmpty) (parts [", ", .hole (·.component.layer), " layer"]), ")\n",
  .each (·.component.responsibilities) (parts [" * - ", .hole (·.2), "\n"]),
  " */\n",
  "@Injectable(\x7b providedIn: 'root' \x7d)\n",
  "export class ", .hole (·.component.className), " \x7b\n",
  "  constructor(\n",
  .each (·.component.dependencies) (parts [
    "    private readonly ", .hole (Words.camel ·.2), ": ", .hole (·.2), ",\n"]),
  "  ) \x7b\x7d\n",
  "\n",
  "  async execute(payload: Record<string, unknown>): ", "Promise<Record<string, unknown>> \x7b\n",
  "    return \x7b ...payload, handledBy: '", .hole (·.component.id), "' \x7d;\n",
  "  \x7d\n",
  "\x7d"]

end Prism.Template.WebAngular
