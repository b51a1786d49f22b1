import Prism.Template.Source

namespace Prism

/-- The packages of a framework and the commands to install, run and build. -/
structure Packages where
  dependencies : List Dependency
  buildScripts : List BuildScript

def Packages.commands (install run build : String) : List BuildScript :=
  [⟨"install", install⟩, ⟨"dev", run⟩, ⟨"build", build⟩]

def Packages.typescript : Dependency := ⟨"typescript", "^5.0.0", .development⟩

/-- The packages of every framework; those without their own use the web packages of React. -/
def Framework.packages : Framework → Packages
  | .vue => {
      dependencies := [⟨"vue", "^3.3.0", .runtime⟩, ⟨"vue-router", "^4.2.0", .runtime⟩,
        Packages.typescript, ⟨"vite", "^5.0.0", .development⟩]
      buildScripts := Packages.commands "npm install" "npm run serve" "npm run build" }
  | .angular => {
      dependencies := [⟨"@angular/core", "^17.0.0", .runtime⟩,
        ⟨"@angular/common", "^17.0.0", .runtime⟩, ⟨"@angular/router", "^17.0.0", .runtime⟩,
        ⟨"rxjs", "^7.8.0", .runtime⟩, Packages.typescript]
      buildScripts := Packages.commands "npm install" "ng serve" "ng build" }
  | .iosSwift => {
      dependencies := [⟨"SwiftUI", "system", .system⟩, ⟨"Combine", "system", .system⟩]
      buildScripts := Packages.commands "pod install"
        "xcodebuild -scheme App -configuration Debug build"
        "xcodebuild -scheme App -configuration Release archive" }
  | .androidKotlin => {
      dependencies := [⟨"androidx.compose.ui:ui", "1.5.4", .runtime⟩,
        ⟨"androidx.lifecycle:lifecycle-viewmodel-compose", "2.6.2", .runtime⟩,
        ⟨"org.jetbrains.kotlinx:kotlinx-coroutines-android", "1.7.3", .runtime⟩]
      buildScripts := Packages.commands "./gradlew dependencies" "./gradlew assembleDebug"
        "./gradlew assembleRelease" }
  | .nodejs => {
      dependencies := [⟨"express", "^4.18.2", .runtime⟩, Packages.typescript,
        ⟨"@types/express", "^4.17.21", .development⟩, ⟨"ts-node-dev", "^2.0.0", .development⟩]
      buildScripts := Packages.commands "npm install" "npm run dev" "npm run build" }
  | .python => {
      dependencies := [⟨"fastapi", "^0.104.0", .runtime⟩, ⟨"sqlalchemy", "^2.0.0", .runtime⟩,
        ⟨"uvicorn", "^0.24.0", .runtime⟩]
      buildScripts := Packages.commands "pip install -r requirements.txt"
        "uvicorn app.main:app --reload" "python -m build" }
  | .java => {
      dependencies := [⟨"org.springframework.boot:spring-boot-starter-web", "3.2.0", .runtime⟩,
        ⟨"org.springframework.boot:spring-boot-starter-data-jpa", "3.2.0", .runtime⟩]
      buildScripts := Packages.commands "mvn install" "mvn spring-boot:run" "mvn clean package" }
  | .react | .svelte | .flutter | .reactNative | .electron | .go | .rust => {
      dependencies := [⟨"react", "^18.2.0", .runtime⟩, ⟨"react-dom", "^18.2.0", .runtime⟩,
        Packages.typescript, ⟨"@types/react", "^18.2.0", .development⟩]
      buildScripts := Packages.commands "npm install" "npm start" "npm run build" }

def Framework.packageScripts : Framework → List (String × String)
  | .vue => [("serve", "vite"), ("build", "vite build")]
  | .angular => [("start", "ng serve"), ("build", "ng build")]
  | .nodejs => [("dev", "ts-node-dev src/index.ts"), ("build", "tsc -p ."),
      ("start", "node dist/index.js")]
  | _ => [("start", "react-scripts start"), ("build", "react-scripts build")]

structure Manifest where
  configuration : List ConfigurationFile
  dependencies : List Dependency
  buildScripts : List BuildScript

namespace Manifest

def command? (scripts : List BuildScript) (name : String) : Option String :=
  (scripts.find? (·.name = name)).map (·.command)

def nonEmpty (text otherwise : String) : String := if text.isEmpty then otherwise else text

def context (spec : Specification) (framework : Framework) : ProjectContext where
  metadata := spec.metadata
  package := nonEmpty (Words.kebab spec.metadata.name) "app"
  moduleName := nonEmpty (Words.snake spec.metadata.name) "app"
  appName := nonEmpty (Words.pascal spec.metadata.name) "App"
  dependencies := framework.packages.dependencies.filter (·.scope = .runtime)

def versions (scope : Scope) (dependencies : List Dependency) : Json :=
  .object ((dependencies.filter (·.scope = scope)).map fun dependency =>
    (dependency.name, .text dependency.version))

def packageFile (project : ProjectContext) (framework : Framework) : Json := .object [
  ("name", .text project.package),
  ("version", .text project.metadata.version),
  ("private", .bool true),
  ("scripts", .object (framework.packageScripts.map fun (name, command) => (name, .text command))),
  ("dependencies", versions .runtime framework.packages.dependencies),
  ("devDependencies", versions .development framework.packages.dependencies)]

def workspaceFile (project : ProjectContext) : Json := .object [
  ("version", .int 1),
  ("projects", .object [(project.package, .object [
    ("projectType", .text "application"),
    ("root", .text ""),
    ("sourceRoot", .text "src"),
    ("architect", .object [
      ("build", .object [("builder", .text "@angular-devkit/build-angular:browser")]),
      ("serve", .object [("builder", .text "@angular-devkit/build-angular:dev-server")])])])])]

def compilerFile : Json := .object [
  ("compilerOptions", .object [
    ("target", .text "ES2022"),
    ("module", .text "commonjs"),
    ("outDir", .text "dist"),
    ("strict", .bool true),
    ("esModuleInterop", .bool true)]),
  ("include", .texts ["src"])]

def jsonFile (path : String) (value : Json) : ConfigurationFile :=
  ⟨path, "json", value.pretty ++ "\n"⟩

/-- The dependencies with the least versions that will do, a line for each. -/
def requirements (dependencies : List Dependency) : String :=
  String.join (dependencies.map fun dependency =>
    dependency.name ++ ">=" ++
      String.ofList (dependency.version.toList.dropWhile (· = '^')) ++ "\n")

def configurationFiles (source : TemplateSource) (spec : Specification) (framework : Framework) :
    Except TemplateFault (List ConfigurationFile) :=
  let project := context spec framework
  match framework with
  | .iosSwift => do
    let content ← source.printNamed "manifest/Info.plist.j2" Template.propertyList project
    return [⟨"Info.plist", "xml", content⟩]
  | .androidKotlin => do
    let content ← source.printNamed "manifest/build.gradle.kts.j2" Template.gradleBuild project
    return [⟨"app/build.gradle.kts", "gradle", content⟩]
  | .python => do
    let content ← source.printNamed "manifest/pyproject.toml.j2" Template.projectSettings project
    return [⟨"pyproject.toml", "toml", content⟩,
      ⟨"requirements.txt", "text", requirements framework.packages.dependencies⟩]
  | .java => do
    let content ← source.printNamed "manifest/pom.xml.j2" Template.projectObjectModel project
    return [⟨"pom.xml", "xml", content⟩]
  | .angular =>
    .ok [jsonFile "package.json" (packageFile project framework),
      jsonFile "angular.json" (workspaceFile project)]
  | .nodejs =>
    .ok [jsonFile "package.json" (packageFile project framework),
      jsonFile "tsconfig.json" compilerFile]
  | .react | .vue | .svelte | .flutter | .reactNative | .electron | .go | .rust =>
    .ok [jsonFile "package.json" (packageFile project framework)]

def build (source : TemplateSource) (spec : Specification) (framework : Framework) :
    Except TemplateFault Manifest := do
  return {
    configuration := ← configurationFiles source spec framework
    dependencies := framework.packages.dependencies
    buildScripts := framework.packages.buildScripts }

end Manifest

end Prism
