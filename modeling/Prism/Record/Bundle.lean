import Prism.Bundle

namespace Prism

def ContractElement.toJson (element : ContractElement) : Json := .object [
  ("name", .text element.name),
  ("family", Json.ofOption (fun family => .text (label family)) element.family),
  ("required", .bool element.required),
  ("native_type", .text element.nativeType)]

def Contract.toJson (contract : Contract) : Json := .object [
  ("dimension", .text (label contract.dimension)),
  ("subject", .text contract.subject),
  ("elements", .list (contract.elements.map ContractElement.toJson))]

def Artifact.toJson (artifact : Artifact) : Json := .object [
  ("path", .text artifact.path),
  ("kind", .text (label artifact.kind)),
  ("language", .text artifact.language),
  ("framework", .text artifact.framework),
  ("content", .text artifact.content),
  ("source", .text artifact.source),
  ("template", .text artifact.template),
  ("capabilities", .texts artifact.capabilities),
  ("contracts", .list (artifact.contracts.map Contract.toJson))]

def ConfigurationFile.toJson (file : ConfigurationFile) : Json := .object [
  ("path", .text file.path), ("format", .text file.format), ("content", .text file.content)]

def Dependency.toJson (dependency : Dependency) : Json := .object [
  ("name", .text dependency.name),
  ("version", .text dependency.version),
  ("scope", .text dependency.scope.text)]

def BuildScript.toJson (script : BuildScript) : Json := .object [
  ("name", .text script.name), ("command", .text script.command)]

def DocumentationFile.toJson (file : DocumentationFile) : Json := .object [
  ("path", .text file.path), ("content", .text file.content)]

def OutputBundle.toJson (bundle : OutputBundle) : Json := .object [
  ("files", .list (bundle.files.map Artifact.toJson)),
  ("configuration", .list (bundle.configuration.map ConfigurationFile.toJson)),
  ("dependencies", .list (bundle.dependencies.map Dependency.toJson)),
  ("build_scripts", .list (bundle.buildScripts.map BuildScript.toJson)),
  ("documentation", .list (bundle.documentation.map DocumentationFile.toJson))]

end Prism
