import Prism.Template.Basic
import Prism.Template.Context

namespace Prism.Template.MobileIos

def component : Template EntityContext := parts [
  parts [
    "// ", .hole (·.trace), "\n",
    "import SwiftUI\n",
    "\n",
    "enum ", .hole (·.entity.className), "Error: String, Error \x7b\n",
    .each (·.errors) (parts [
      "    case ", .hole (Words.camel ·.2), " = \"", .hole (·.2), "\"\n"]),
    "\x7d\n",
    "\n",
    "struct ", .hole (·.entity.className), "Api \x7b\n",
    "    var baseURL: URL\n",
    "\n"],
  parts [
    .each (·.operations) (parts [
      "    func ", .hole (·.2.name), "(id: String = \"\", body: ",
      .hole (·.1.entity.className), "? = nil) async throws -> Data \x7b\n",
      "        try await send(\"", .hole (·.2.method), "\", path: \"", .hole (·.2.route),
      "\".replacingOccurrences(of: \"\x7bid\x7d\", with: id), body: body)\n",
      "    \x7d\n",
      "\n"]),
    "    private func send(_ method: String, path: String, body: ", .hole (·.entity.className),
    "?) async throws -> Data \x7b\n",
    "        var request = URLRequest(url: baseURL.appendingPathComponent(path))\n",
    "        request.httpMethod = method\n",
    "        if let body \x7b request.httpBody = try JSONEncoder().encode(body) \x7d\n",
    "        let (data, response) = try await URLSession.shared.data(for: request)\n",
    "        switch (response as? HTTPURLResponse)?.statusCode \x7b\n",
    "        case 404: throw ", .hole (·.entity.className), "Error.notFound\n",
    "        case 422: throw ", .hole (·.entity.className), "Error.invalidInput\n",
    .only (·.needsAuthorization) (parts [
      "        case 401: throw ", .hole (·.entity.className), "Error.unauthorized\n"]),
    "        default: return data\n",
    "        \x7d\n",
    "    \x7d\n",
    "\x7d\n",
    "\n",
    "struct ", .hole (·.entity.className), "View: View \x7b\n",
    .each (·.fields) (parts [
      "    @State private var ", .hole (·.2.name), " = \"\"\n"]),
    "\n"],
  parts [
    "    var body: some View \x7b\n",
    "        Form \x7b\n",
    .each (·.fields) (parts [
      "            TextField(\"", .hole (·.2.text),
      .hole (fun (_, field) => if field.required then " *" else ""), "\", text: $", .hole (·.2.name), ")\n"]),
    "            Button(\"Save ", .hole (·.entity.name), "\") \x7b\x7d\n",
    "        \x7d\n",
    "    \x7d\n",
    "\x7d"]]

def model : Template EntityContext := parts [
  "// ", .hole (·.trace), "\n",
  "import Foundation\n",
  "\n",
  .only (!·.entity.description.isEmpty) (parts ["/// ", .hole (·.entity.description), "\n"]),
  "struct ", .hole (·.entity.className), ": Codable, Identifiable \x7b\n",
  .each (·.fields) (parts [
    "    var ", .hole (·.2.name), ": ", .hole (·.2.nativeType),
    .hole (fun (_, field) => if field.required then "" else "?"), "\n"]),
  .each (·.entity.relationships) (parts [
    "    var ", .hole (·.2.name), ": ", .hole (fun (_, relation) =>
      if relation.many then "[" ++ relation.targetClass ++ "]"
      else relation.targetClass),
    "?\n"]),
  .only (!·.entity.hasIdField) "    var id: UUID = UUID()\n",
  "\x7d"]

def page : Template PageContext := parts [
  "// ", .hole (·.trace), "\n",
  "import SwiftUI\n",
  "\n",
  "typealias StepContext = [String: String]\n",
  "\n",
  .only (!·.flow.description.isEmpty) (parts ["/// ", .hole (·.flow.description), "\n"]),
  "struct ", .hole (·.flow.className), "Screen: View \x7b\n",
  "    static let route = \"/", .hole (·.flow.route), "\"\n",
  .only (!·.flow.roles.isEmpty) (parts ["    static let roles = [",
    .joined ", " (·.flow.roles) (parts ["\"", .hole (·.2), "\""]), "]\n"]),
  "\n",
  .each (·.steps) (parts [
    "    // step ", .hole (·.2.id), " (", .hole (·.2.type), ")", .only (!·.2.entityClass.isEmpty) (parts [
      " on ", .hole (·.2.entityClass)]), "\n",
    "    func ", .hole (·.2.handler), "(_ context: StepContext) async -> StepContext \x7b\n",
    "        var next = context\n",
    .each (·.2.nextHandlers) (parts [
      "        next = await ", .hole (·.2), "(next)\n"]),
    "        next[\"completed\"] = \"", .hole (·.2.id), "\"\n",
    "        return next\n",
    "    \x7d\n",
    "\n"]),
  "    var body: some View \x7b\n",
  "        Text(\"", .hole (·.flow.name), "\")\n",
  "    \x7d\n",
  "\x7d"]

def service : Template ServiceContext := parts [
  parts [
    "// ", .hole (·.trace), "\n",
    "import Foundation\n",
    "\n",
    "/// ", .hole (·.component.name), " (", .hole (·.component.type),
    .only (!·.component.layer.isEmpty) (parts [", ", .hole (·.component.layer), " layer"]), ")\n",
    .each (·.component.responsibilities) (parts ["/// - ", .hole (·.2), "\n"]),
    "final class ", .hole (·.component.className), " \x7b\n",
    .each (·.component.dependencies) (parts [
      "    private let ", .hole (Words.camel ·.2), ": ", .hole (·.2), "\n"]),
    "\n",
    "    init(", .joined ", " (·.component.dependencies) (parts [.hole (Words.camel ·.2), ": ", .hole (·.2)]),
    ") \x7b\n",
    .each (·.component.dependencies) (parts [
      "        self.", .hole (Words.camel ·.2), " = ", .hole (Words.camel ·.2), "\n"]),
    "    \x7d\n",
    "\n"],
  parts [
    "    func execute(_ payload: [String: String]) async -> [String: String] \x7b\n",
    "        var result = payload\n",
    "        result[\"handledBy\"] = \"", .hole (·.component.id), "\"\n",
    "        return result\n",
    "    \x7d\n",
    "\x7d"]]

def repository : Template PolicyContext := parts [
  "// ", .hole (·.trace), "\n",
  "import Foundation\n",
  "\n",
  "enum PolicyAction: String \x7b\n",
  "    case encrypt, authorize, validate, transform\n",
  "\x7d\n",
  "\n",
  "struct PolicyRule \x7b\n",
  "    let id: String\n",
  "    let action: PolicyAction\n",
  "    let location: String\n",
  "\x7d\n",
  "\n",
  "enum DataAccessPolicy \x7b\n",
  "    static let rules: [PolicyRule] = [\n",
  .each (·.rules) (parts [
    "        PolicyRule(id: \"", .hole (·.2.id), "\", action: .", .hole (·.2.keyword), ", location: \"",
    .hole (·.2.location), "\"),\n"]),
  "    ]\n",
  "\n",
  .each (·.rules) (parts [
    "    // ", .hole (·.2.id), ": ", .hole (·.2.name), .only (!·.2.framework.isEmpty) (parts [
      " [", .hole (·.2.framework), "]"]), "\n",
    "    static func ", .hole (·.2.function), "(_ record: [String: String]) -> [String: String] \x7b\n",
    "        var result = record\n",
    "        result[\"policy\"] = \"", .hole (·.2.id), "\"\n",
    "        result[\"action\"] = \"", .hole (·.2.keyword), "\"\n",
    "        return result\n",
    "    \x7d\n",
    "\n"]),
  "\x7d"]

end Prism.Template.MobileIos
