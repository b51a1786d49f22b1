import Prism.Template.Basic
import Prism.Template.Context

namespace Prism.Template.MobileAndroid

def component : Template EntityContext := parts [
  parts [
    "// ", .hole (·.trace), "\n",
    "package com.example.app.ui\n",
    "\n",
    "import androidx.compose.foundation.layout.Column\n",
    "import androidx.compose.material3.Button\n",
    "import androidx.compose.material3.OutlinedTextField\n",
    "import androidx.compose.material3.Text\n",
    "import androidx.compose.runtime.Composable\n",
    "import androidx.compose.runtime.getValue\n",
    "import androidx.compose.runtime.mutableStateOf\n",
    "import androidx.compose.runtime.remember\n",
    "import androidx.compose.runtime.setValue\n",
    "import com.example.app.model.", .hole (·.entity.className), "\n",
    "\n",
    "enum class ", .hole (·.entity.className), "Error(val code: String) \x7b\n",
    .each (·.errors) (parts ["    ", .hole (·.2), "(\"", .hole (·.2), "\"),\n"]),
    "\x7d\n",
    "\n"],
  parts [
    "class ", .hole (·.entity.className), "Api(private val http: suspend (String, String, ",
    .hole (·.entity.className), "?) -> Int) \x7b\n",
    .each (·.operations) (parts [
      "    suspend fun ", .hole (·.2.name),
      "(id: String = \"\", body: ", .hole (·.1.entity.className), "? = null) =\n",
      "        send(\"", .hole (·.2.method), "\", \"",
      .hole (·.2.route), "\".replace(\"\x7bid\x7d\", id), body)\n",
      "\n"]),
    "    private suspend fun send(method: String, path: String, body: ",
    .hole (·.entity.className), "?) \x7b\n",
    "        when (http(method, path, body)) \x7b\n",
    "            404 -> throw IllegalStateException(", .hole (·.entity.className), "Error.NOT_FOUND.code)\n",
    "            422 -> throw IllegalArgumentException(", .hole (·.entity.className),
    "Error.INVALID_INPUT.code)\n",
    .only (·.needsAuthorization) (parts [
      "            401 -> throw SecurityException(", .hole (·.entity.className),
      "Error.UNAUTHORIZED.code)\n"]),
    "        \x7d\n",
    "    \x7d\n",
    "\x7d\n",
    "\n"],
  parts [
    "@Composable\n",
    "fun ", .hole (·.entity.className), "Card(onSave: () -> Unit) \x7b\n",
    "    Column \x7b\n",
    .each (·.fields) (parts [
      "        var ", .hole (·.2.name), " by remember \x7b mutableStateOf(\"\") \x7d\n",
      "        OutlinedTextField(\n",
      "            value = ", .hole (·.2.name), ",\n",
      "            onValueChange = \x7b ", .hole (·.2.name), " = it \x7d,\n",
      "            label = \x7b Text(\"", .hole (·.2.text),
      .hole (fun (_, field) => if field.required then " *" else ""), "\") \x7d,\n",
      "        )\n"]),
    "        Button(onClick = onSave) \x7b Text(\"Save ", .hole (·.entity.name), "\") \x7d\n",
    "    \x7d\n",
    "\x7d"]]

def model : Template EntityContext := parts [
  "// ", .hole (·.trace), "\n",
  "package com.example.app.model\n",
  "\n",
  "import java.time.Instant\n",
  "import java.time.LocalDate\n",
  "import java.time.LocalTime\n",
  "\n",
  .only (!·.entity.description.isEmpty) (parts ["/** ", .hole (·.entity.description), " */\n"]),
  "data class ", .hole (·.entity.className), "(\n",
  .each (·.fields) (parts [
    "    val ", .hole (·.2.name), ": ", .hole (·.2.nativeType),
    .hole (fun (_, field) => if field.required then "" else "? = null"), ",\n"]),
  .each (·.entity.relationships) (parts [
    "    val ", .hole (·.2.name), ": ", .hole (fun (_, relation) =>
      if relation.many then "List<" ++ relation.targetClass ++ ">"
      else relation.targetClass),
    "? = null,\n"]),
  ")"]

def page : Template PageContext := parts [
  "// ", .hole (·.trace), "\n",
  "package com.example.app.ui\n",
  "\n",
  "import androidx.compose.material3.Text\n",
  "import androidx.compose.runtime.Composable\n",
  "\n",
  "typealias StepContext = Map<String, String>\n",
  "\n",
  .only (!·.flow.description.isEmpty) (parts ["/** ", .hole (·.flow.description), " */\n"]),
  "object ", .hole (·.flow.className), "Flow \x7b\n",
  "    const val ROUTE = \"/", .hole (·.flow.route), "\"\n",
  .only (!·.flow.roles.isEmpty) (parts ["    val roles = listOf(",
    .joined ", " (·.flow.roles) (parts ["\"", .hole (·.2), "\""]), ")\n"]),
  "\n",
  .each (·.steps) (parts [
    "    // step ", .hole (·.2.id), " (", .hole (·.2.type), ")", .only (!·.2.entityClass.isEmpty) (parts [
      " on ", .hole (·.2.entityClass)]), "\n",
    "    suspend fun ", .hole (·.2.handler), "(context: StepContext): StepContext \x7b\n",
    "        var next = context\n",
    .each (·.2.nextHandlers) (parts [
      "        next = ", .hole (·.2), "(next)\n"]),
    "        return next + (\"completed\" to \"", .hole (·.2.id), "\")\n",
    "    \x7d\n",
    "\n"]),
  "\x7d\n",
  "\n",
  "@Composable\n",
  "fun ", .hole (·.flow.className), "Screen() \x7b\n",
  "    Text(\"", .hole (·.flow.name), "\")\n",
  "\x7d"]

def service : Template ServiceContext := parts [
  "// ", .hole (·.trace), "\n",
  "package com.example.app.service\n",
  "\n",
  "/**\n",
  " * ", .hole (·.component.name), " (", .hole (·.component.type),
  .only (!·.component.layer.isEmpty) (parts [", ", .hole (·.component.layer), " layer"]), ")\n",
  .each (·.component.responsibilities) (parts [" * - ", .hole (·.2), "\n"]),
  " */\n",
  "class ", .hole (·.component.className), "(\n",
  .each (·.component.dependencies) (parts [
    "    private val ", .hole (Words.camel ·.2), ": ", .hole (·.2), ",\n"]),
  ") \x7b\n",
  "    suspend fun execute(payload: Map<String, String>): Map<String, String> =\n",
  "        payload + (\"handledBy\" to \"", .hole (·.component.id), "\")\n",
  "\x7d"]

def repository : Template PolicyContext := parts [
  "// ", .hole (·.trace), "\n",
  "package com.example.app.data\n",
  "\n",
  "enum class PolicyAction \x7b ENCRYPT, AUTHORIZE, VALIDATE, TRANSFORM \x7d\n",
  "\n",
  "data class PolicyRule(val id: String, val action: String, val location: String)\n",
  "\n",
  "object DataAccessPolicy \x7b\n",
  "    val rules = listOf(\n",
  .each (·.rules) (parts [
    "        PolicyRule(\"", .hole (·.2.id), "\", \"", .hole (·.2.keyword), "\", \"", .hole (·.2.location),
    "\"),\n"]),
  "    )\n",
  "\n",
  .each (·.rules) (parts [
    "    // ", .hole (·.2.id), ": ", .hole (·.2.name), .only (!·.2.framework.isEmpty) (parts [
      " [", .hole (·.2.framework), "]"]), "\n",
    "    fun ", .hole (·.2.function), "(record: Map<String, String>): Map<String, String> =\n",
    "        record + mapOf(\"policy\" to \"", .hole (·.2.id),
    "\", \"action\" to \"", .hole (·.2.keyword), "\")\n",
    "\n"]),
  "\x7d"]

end Prism.Template.MobileAndroid
