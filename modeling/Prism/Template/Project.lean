import Prism.Bundle
import Prism.Template.Basic
import Prism.Template.Literal

namespace Prism

structure ProjectContext where
  metadata : Metadata
  package : String
  moduleName : String
  appName : String
  dependencies : List Dependency

structure ReadmeContext where
  metadata : Metadata
  target : Target
  artifacts : List Artifact
  dependencies : List Dependency
  buildScripts : List BuildScript

/-- The group of a dependency, which stands before the first colon of its name. -/
def Dependency.group (dependency : Dependency) : String :=
  ((Text.pieces ':' dependency.name)[0]?).getD ""

/-- What stands after the first colon of the name of a dependency. -/
def Dependency.artifact (dependency : Dependency) : String :=
  ((Text.pieces ':' dependency.name)[1]?).getD ""

/-- The version of a dependency without carets. -/
def Dependency.plainVersion (dependency : Dependency) : String :=
  Text.replaceAll "^" "" dependency.version

namespace Template

def propertyList : Template ProjectContext := parts [
  "<?xml version=\"1.0\" encoding=\"UTF-8\"?>\n",
  "<!DOCTYPE plist PUBLIC \"-//Apple//DTD PLIST 1.0//EN\" ",
  "\"http://www.apple.com/DTDs/PropertyList-1.0.dtd\">\n",
  "<plist version=\"1.0\">\n",
  "<dict>\n",
  "  <key>CFBundleName</key>\n",
  "  <string>", .hole (fun c => markup c.appName), "</string>\n",
  "  <key>CFBundleIdentifier</key>\n",
  "  <string>com.example.", .hole (fun c => markup c.package), "</string>\n",
  "  <key>CFBundleShortVersionString</key>\n",
  "  <string>", .hole (fun c => markup c.metadata.version), "</string>\n",
  "  <key>CFBundleExecutable</key>\n",
  "  <string>", .hole (fun c => markup c.appName), "</string>\n",
  "  <key>UILaunchScreen</key>\n",
  "  <dict/>\n",
  "</dict>\n",
  "</plist>"]

def gradleBuild : Template ProjectContext := parts [
  "plugins \x7b\n",
  "    id(\"com.android.application\")\n",
  "    id(\"org.jetbrains.kotlin.android\")\n",
  "\x7d\n",
  "\n",
  "android \x7b\n",
  "    namespace = \"com.example.app\"\n",
  "    compileSdk = 34\n",
  "\n",
  "    defaultConfig \x7b\n",
  "        applicationId = \"com.example.", .hole (·.moduleName), "\"\n",
  "        minSdk = 26\n",
  "        targetSdk = 34\n",
  "        versionName = \"", .hole (·.metadata.version), "\"\n",
  "    \x7d\n",
  "\n",
  "    buildFeatures \x7b\n",
  "        compose = true\n",
  "    \x7d\n",
  "\x7d\n",
  "\n",
  "dependencies \x7b\n",
  .each (·.dependencies) (parts [
    "    implementation(\"", .hole (·.2.name), ":", .hole (·.2.version), "\")\n"]),
  "\x7d"]

def projectObjectModel : Template ProjectContext := parts [
  "<?xml version=\"1.0\" encoding=\"UTF-8\"?>\n",
  "<project xmlns=\"http://maven.apache.org/POM/4.0.0\">\n",
  "  <modelVersion>4.0.0</modelVersion>\n",
  "  <groupId>com.example</groupId>\n",
  "  <artifactId>", .hole (fun c => markup c.package), "</artifactId>\n",
  "  <version>", .hole (fun c => markup c.metadata.version), "</version>\n",
  "  <name>", .hole (fun c => markup c.metadata.name), "</name>\n",
  "  <parent>\n",
  "    <groupId>org.springframework.boot</groupId>\n",
  "    <artifactId>spring-boot-starter-parent</artifactId>\n",
  "    <version>3.2.0</version>\n",
  "  </parent>\n",
  "  <dependencies>\n",
  .each (·.dependencies) (parts [
    "    <dependency>\n",
    "      <groupId>", .hole (·.2.group), "</groupId>\n",
    "      <artifactId>", .hole (·.2.artifact), "</artifactId>\n",
    "    </dependency>\n"]),
  "  </dependencies>\n",
  "</project>"]

def projectSettings : Template ProjectContext := parts [
  "[build-system]\n",
  "requires = [\"setuptools>=68\"]\n",
  "build-backend = \"setuptools.build_meta\"\n",
  "\n",
  "[project]\n",
  "name = ", .hole (fun c => scriptLiteral c.package), "\n",
  "version = ", .hole (fun c => scriptLiteral c.metadata.version), "\n",
  "description = ", .hole (fun c => scriptLiteral c.metadata.description), "\n",
  "requires-python = \">=3.11\"\n",
  "dependencies = [\n",
  .each (·.dependencies) (parts [
    "  \"", .hole (·.2.name), ">=", .hole (·.2.plainVersion), "\",\n"]),
  "]"]

def readme : Template ReadmeContext := parts [
  parts [
    "# ", .hole (·.metadata.name), " (", .hole (·.target.name), ")\n",
    "\n",
    .only (!·.metadata.description.isEmpty) (parts [.hole (·.metadata.description), "\n",
      "\n"]),
    "Generated by polygen for \x60", .hole (·.target.id), "\x60: ",
    .hole (fun c => label c.target.framework), " on ", .hole (fun c => label c.target.platform),
    ", written in ", .hole (fun c => label c.target.language), ".\n",
    "\n"],
  parts [
    "## Getting started\n",
    "\n",
    "\x60\x60\x60bash\n",
    .each (·.buildScripts) (parts [
      "# ", .hole (·.2.name), "\n",
      .hole (·.2.command), "\n"]),
    "\x60\x60\x60\n",
    "\n"],
  parts [
    "## Project layout\n",
    "\n",
    .each (·.artifacts) (parts [
      "- \x60", .hole (·.2.path), "\x60 (", .hole (label ·.2.kind), ", from \x60",
      .hole (·.2.source), "\x60)\n"]),
    .only (·.artifacts.isEmpty) "- No artifacts were generated.\n",
    "\n"],
  parts [
    "## Dependencies\n",
    "\n",
    .each (·.dependencies) (parts [
      "- ", .hole (·.2.name), " ", .hole (·.2.version), .only (·.2.scope ≠ .runtime) (parts [
        " (", .hole (·.2.scope.text), ")"]), "\n"]),
    "\n"],
  parts [
    "## Optimizations\n",
    "\n",
    .each (·.target.optimizations) (parts [
      "- **", .hole (·.2.name), "** (", .hole (label ·.2.category), ", ",
      .hole (label ·.2.impact), " impact): ", .hole (·.2.technique), "\n"])]]

end Template

end Prism
