import Prism.Template.Basic
import Prism.Template.Context
import Prism.Template.Literal

namespace Prism.Template.BackendJava

def component : Template EntityContext := parts [
  parts [
    "// ", .hole (·.trace), "\n",
    "package com.example.app.controller;\n",
    "\n",
    "import com.example.app.model.", .hole (·.entity.className), ";\n",
    "import java.util.ArrayList;\n",
    "import java.util.List;\n",
    "import java.util.Map;\n",
    "import java.util.concurrent.ConcurrentHashMap;\n",
    "import org.springframework.http.HttpStatus;\n",
    "import org.springframework.web.bind.annotation.*;\n",
    "import org.springframework.web.server.ResponseStatusException;\n",
    "\n",
    "@RestController\n",
    "public class ", .hole (·.entity.className), "Controller \x7b\n",
    "    public enum ErrorCode \x7b ", .joined ", " (·.errors) (.hole (·.2)), " \x7d\n",
    "\n",
    "    private final Map<String, ", .hole (·.entity.className), "> store = new ConcurrentHashMap<>();\n",
    "\n"],
  parts [
    "    private ", .hole (·.entity.className), " find(String id) \x7b\n",
    "        ", .hole (·.entity.className), " record = store.get(id);\n",
    "        if (record == null) \x7b\n",
    "            throw new ResponseStatusException(HttpStatus.NOT_FOUND, ", "ErrorCode.NOT_FOUND.name());\n",
    "        \x7d\n",
    "        return record;\n",
    "    \x7d\n",
    "\n",
    "    private ", .hole (·.entity.className), " validate(", .hole (·.entity.className), " body) \x7b\n",
    "        if (body == null) \x7b\n",
    "            throw new ", "ResponseStatusException(HttpStatus.UNPROCESSABLE_ENTITY, ",
    "ErrorCode.INVALID_INPUT.name());\n",
    "        \x7d\n",
    "        return body;\n",
    "    \x7d\n",
    .only (·.needsAuthorization) (parts ["\n",
      "    private void authorize(String token) \x7b\n",
      "        if (token == null) \x7b\n",
      "            throw new ",
      "ResponseStatusException(HttpStatus.UNAUTHORIZED, ErrorCode.UNAUTHORIZED.name());\n",
      "        \x7d\n",
      "    \x7d\n"]),
    .each (·.operations) (parts [
      "\n",
      "    @", .hole (titled ·.2.method), "Mapping(\"", .hole (·.2.route), "\")\n",
      .choose (·.2.operation = .list) (parts [
        "    public List<", .hole (·.1.entity.className), "> list() \x7b\n",
        "        return new ArrayList<>(store.values());\n",
        "    \x7d\n"]) <|
      .choose (·.2.operation = .get) (parts [
        "    public ", .hole (·.1.entity.className), " get(@PathVariable String id) \x7b\n",
        "        return find(id);\n",
        "    \x7d\n"]) <|
      .choose (·.2.operation = .create) (parts [
        "    public ", .hole (·.1.entity.className), " create(@RequestBody ",
        .hole (·.1.entity.className), " body) \x7b\n",
        "        store.put(String.valueOf(store.size() + 1), validate(body));\n",
        "        return body;\n",
        "    \x7d\n"]) <|
      .choose (·.2.operation = .update) (parts [
        "    public ", .hole (·.1.entity.className),
        " update(@PathVariable String id, @RequestBody ", .hole (·.1.entity.className), " body) \x7b\n",
        "        find(id);\n",
        "        store.put(id, validate(body));\n",
        "        return body;\n",
        "    \x7d\n"]) <|
      parts [
        "    public void ", .hole (·.2.name), "(@PathVariable String id) \x7b\n",
        "        find(id);\n",
        "        store.remove(id);\n",
        "    \x7d\n"]]), "\x7d"]]

/-- A parameter of a record: a field, or a relation to other records. -/
def recordParameters (context : EntityContext) : List String :=
  context.fields.map (fun field =>
    (if field.required then "@jakarta.validation.constraints.NotNull " else "") ++
      field.nativeType ++ " " ++ field.name) ++
  context.entity.relationships.map fun relation =>
    (if relation.many then "List<" ++ relation.targetClass ++ ">" else relation.targetClass) ++
      " " ++ relation.name

def model : Template EntityContext := parts [
  "// ", .hole (·.trace), "\n",
  "package com.example.app.model;\n",
  "\n",
  "import java.time.Instant;\n",
  "import java.time.LocalDate;\n",
  "import java.time.LocalTime;\n",
  "import java.util.List;\n",
  "import java.util.Map;\n",
  "import java.util.UUID;\n",
  "\n",
  .only (!·.entity.description.isEmpty) (parts ["/** ", .hole (·.entity.description), " */\n"]),
  "public record ", .hole (·.entity.className), "(\n",
  .joined ",\n" recordParameters (parts ["    ", .hole (·.2)]),
  .only (fun c => !(recordParameters c).isEmpty) "\n",
  ") \x7b\x7d"]

def page : Template PageContext := parts [
  parts [
    "// ", .hole (·.trace), "\n",
    "package com.example.app.flow;\n",
    "\n",
    "import java.util.HashMap;\n",
    "import java.util.List;\n",
    "import java.util.Map;\n",
    "import org.springframework.web.bind.annotation.PostMapping;\n",
    "import org.springframework.web.bind.annotation.RequestBody;\n",
    "import org.springframework.web.bind.annotation.RestController;\n",
    "\n",
    .only (!·.flow.description.isEmpty) (parts ["/** ", .hole (·.flow.description), " */\n"]),
    "@RestController\n",
    "public class ", .hole (·.flow.className), "Flow \x7b\n",
    "    public static final List<String> ROLES = List.of(",
    .joined ", " (·.flow.roles) (parts ["\"", .hole (·.2), "\""]), ");\n",
    .each (·.steps) (parts [
      "\n",
      "    // step ", .hole (·.2.id), " (", .hole (·.2.type), ")", .only (!·.2.entityClass.isEmpty) (parts [
        " on ", .hole (·.2.entityClass)]), "\n",
      "    public Map<String, Object> ", .hole (·.2.handler), "(Map<String, Object> context) \x7b\n",
      "        Map<String, Object> next = new HashMap<>(context);\n",
      .each (·.2.nextHandlers) (parts [
        "        next = ", .hole (·.2), "(next);\n"]),
      "        next.put(\"completed\", \"", .hole (·.2.id), "\");\n",
      "        return next;\n",
      "    \x7d\n"]),
    "\n"],
  parts [
    "    @PostMapping(\"/", .hole (·.flow.route), "\")\n",
    "    public Map<String, Object> run(@RequestBody Map<String, Object> context) \x7b\n",
    "        Map<String, Object> result = new HashMap<>(context);\n",
    .each (·.entrySteps) (parts [
      "        result = ", .hole (·.2.handler), "(result);\n"]),
    "        return result;\n",
    "    \x7d\n",
    "\x7d"]]

def service : Template ServiceContext := parts [
  parts [
    "// ", .hole (·.trace), "\n",
    "package com.example.app.service;\n",
    "\n",
    "import java.util.HashMap;\n",
    "import java.util.Map;\n",
    "import java.util.concurrent.CompletableFuture;\n",
    "import org.springframework.stereotype.Service;\n",
    "\n",
    "/**\n",
    " * ", .hole (·.component.name), " (", .hole (·.component.type),
    .only (!·.component.layer.isEmpty) (parts [", ", .hole (·.component.layer), " layer"]), ")\n",
    .each (·.component.responsibilities) (parts [" * - ", .hole (·.2), "\n"]),
    " */\n",
    "@Service\n",
    "public class ", .hole (·.component.className), " \x7b\n",
    .each (·.component.dependencies) (parts [
      "    private final ", .hole (·.2), " ", .hole (Words.camel ·.2), ";\n"]),
    "\n"],
  parts [
    "    public ", .hole (·.component.className), "(", .joined ", " (·.component.dependencies) (parts [
      .hole (·.2), " ", .hole (Words.camel ·.2)]), ") \x7b\n",
    .each (·.component.dependencies) (parts [
      "        this.", .hole (Words.camel ·.2), " = ", .hole (Words.camel ·.2), ";\n"]),
    "    \x7d\n",
    "\n",
    "    public CompletableFuture<Map<String, Object>> execute(Map<String, ", "Object> payload) \x7b\n",
    "        Map<String, Object> result = new HashMap<>(payload);\n",
    "        result.put(\"handledBy\", \"", .hole (·.component.id), "\");\n",
    "        return CompletableFuture.completedFuture(result);\n",
    "    \x7d\n",
    "\x7d"]]

def repository : Template PolicyContext := parts [
  "// ", .hole (·.trace), "\n",
  "package com.example.app.security;\n",
  "\n",
  "import java.util.HashMap;\n",
  "import java.util.List;\n",
  "import java.util.Map;\n",
  "\n",
  "public final class DataAccessPolicy \x7b\n",
  "    public record PolicyRule(String id, String action, String location) \x7b\x7d\n",
  "\n",
  "    public static final List<PolicyRule> RULES = List.of(\n",
  .joined ",\n" (·.rules) (parts ["        new PolicyRule(\"", .hole (·.2.id), "\", \"",
    .hole (·.2.keyword), "\", \"", .hole (·.2.location), "\")"]), .only (!·.rules.isEmpty) "\n",
  "    );\n",
  "\n",
  "    private DataAccessPolicy() \x7b\x7d\n",
  .each (·.rules) (parts [
    "\n",
    "    // ", .hole (·.2.id), ": ", .hole (·.2.name), .only (!·.2.framework.isEmpty) (parts [
      " [", .hole (·.2.framework), "]"]), "\n",
    "    public static Map<String, Object> ", .hole (·.2.function), "(Map<String, Object> record) \x7b\n",
    "        Map<String, Object> result = new HashMap<>(record);\n",
    "        result.put(\"policy\", \"", .hole (·.2.id), "\");\n",
    "        result.put(\"action\", \"", .hole (·.2.keyword), "\");\n",
    "        return result;\n",
    "    \x7d\n"]),
  "\x7d"]

end Prism.Template.BackendJava
