import Prism.Generate
import Prism.Record.Bundle

namespace Prism

/-- Members in order, as far as they have one. -/
def sortedMembers (members : List Scalar) : List Scalar :=
  members.mergeSort fun a b => (b.less a).toOption ≠ some true

/-- A value that JSON does not have: a set is the list of its members, all else is told by its text. -/
def foreignJson : Doc → Json
  | .set members => .list ((sortedMembers members).map (Doc.scalarJson plainRecord))
  | value => plainRecord value
where
  plainRecord (value : Doc) : Json := .object [("$str", .text (Specification.foreignText value))]

/-- A specification with its fingerprint, its needs and its structural problems. -/
def Specification.summary (spec : Specification) : List (String × Json) := [
  ("spec", spec.toJson foreignJson),
  ("fingerprint", .text spec.fingerprint),
  ("requires_auth", .bool spec.requiresAuth),
  ("capabilities", .texts spec.requiredCapabilities),
  ("problems", .texts (spec.structuralErrors.map (·.message)))]

/-- What a name leads to: an entity, a field in each entity, and the rules that apply. -/
def Specification.lookupJson (spec : Specification) (name : String) : Json := .object [
  ("entity", Json.ofOption (fun entity => .text entity.id) (spec.entity? name)),
  ("fields", .list (spec.entities.map fun entity =>
    Json.ofOption (fun field => .texts [field.id, label field.family]) (entity.fieldNamed? name))),
  ("rules", .texts ((spec.compliance.rules.filter (·.appliesTo name)).map (·.id)))]

def Convention.toJson (convention : Convention) : Json := .object [
  ("language", .text (label convention.language)),
  ("casing", .text convention.casing.text),
  ("extension", .text convention.extension),
  ("types", .object ((Labelled.all : List FieldType).map fun type =>
    let native := convention.typeFor type
    (label type, .texts [native.name, label native.family])))]

/-- What a framework brings: its templates, its packages and its commands. -/
def Framework.summary (framework : Framework) : List (String × Json) := [
  ("set", .text (label framework.templateSet)),
  ("own", .bool framework.ownSet?.isSome),
  ("dependencies", .list (framework.packages.dependencies.map Dependency.toJson)),
  ("scripts", .list (framework.packages.buildScripts.map BuildScript.toJson))]

def Specification.declaredJson (spec : Specification) (target : Target) : Json := .object [
  ("dimensions", .texts (target.dimensions.map label)),
  ("codes", .texts spec.errorCodes),
  ("declared", .object (Dimension.all.filterMap fun dimension =>
    (spec.declared target dimension).map fun contracts =>
      (label dimension, .list (contracts.map Contract.toJson))))]

end Prism
