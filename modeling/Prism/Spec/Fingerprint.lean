import Prism.Digest.Sha256
import Prism.Json.Writer
import Prism.Spec.Model

namespace Prism

variable (encode : Doc → Json)

def ValidationRule.toJson (rule : ValidationRule) : Json := .object [
  ("type", .text rule.type),
  ("value", rule.value.toJson encode),
  ("message", .text rule.message)]

def Field.toJson (field : Field) : Json := .object [
  ("id", .text field.id),
  ("name", .text field.name),
  ("type", .text (label field.type)),
  ("required", .bool field.required),
  ("unique", .bool field.unique),
  ("default", field.default.toJson encode),
  ("validation", .list (field.validation.map (·.toJson encode)))]

def Relationship.toJson (relationship : Relationship) : Json := .object [
  ("id", .text relationship.id),
  ("name", .text relationship.name),
  ("type", .text relationship.type),
  ("target_entity", .text relationship.targetEntity),
  ("on_delete", Json.ofOption .text relationship.onDelete)]

def Constraint.toJson (constraint : Constraint) : Json := .object [
  ("id", .text constraint.id),
  ("name", .text constraint.name),
  ("type", .text constraint.type),
  ("fields", .texts constraint.fields),
  ("expression", Json.ofOption .text constraint.expression)]

def Index.toJson (index : Index) : Json := .object [
  ("id", .text index.id),
  ("name", .text index.name),
  ("fields", .texts index.fields),
  ("unique", .bool index.unique)]

def Entity.toJson (entity : Entity) : Json := .object [
  ("id", .text entity.id),
  ("name", .text entity.name),
  ("description", .text entity.description),
  ("fields", .list (entity.fields.map (·.toJson encode))),
  ("relationships", .list (entity.relationships.map (·.toJson))),
  ("constraints", .list (entity.constraints.map (·.toJson))),
  ("indexes", .list (entity.indexes.map (·.toJson)))]

def FlowStep.toJson (step : FlowStep) : Json := .object [
  ("id", .text step.id),
  ("name", .text step.name),
  ("type", .text (label step.type)),
  ("entity", Json.ofOption .text step.entity),
  ("next_steps", .texts step.nextSteps)]

def Trigger.toJson (trigger : Trigger) : Json := .object [
  ("id", .text trigger.id),
  ("type", .text trigger.type),
  ("config", .list (trigger.config.map fun (key, value) => .texts [key, value]))]

def AuthRequirement.toJson (auth : AuthRequirement) : Json := .object [
  ("role", .text auth.role),
  ("permissions", .texts auth.permissions)]

def Flow.toJson (flow : Flow) : Json := .object [
  ("id", .text flow.id),
  ("name", .text flow.name),
  ("description", .text flow.description),
  ("type", .text flow.type),
  ("steps", .list (flow.steps.map (·.toJson))),
  ("triggers", .list (flow.triggers.map (·.toJson))),
  ("auth", .list (flow.auth.map (·.toJson)))]

def Layer.toJson (layer : Layer) : Json := .object [
  ("name", .text layer.name),
  ("description", .text layer.description)]

def Component.toJson (component : Component) : Json := .object [
  ("id", .text component.id),
  ("name", .text component.name),
  ("type", .text component.type),
  ("layer", .text component.layer),
  ("responsibilities", .texts component.responsibilities),
  ("dependencies", .texts component.dependencies)]

def Architecture.toJson (architecture : Architecture) : Json := .object [
  ("pattern", .text architecture.pattern),
  ("layers", .list (architecture.layers.map (·.toJson))),
  ("components", .list (architecture.components.map (·.toJson)))]

def ComplianceRule.toJson (rule : ComplianceRule) : Json := .object [
  ("id", .text rule.id),
  ("name", .text rule.name),
  ("implementation", .text (label rule.implementation)),
  ("framework", .text rule.framework),
  ("description", .text rule.description),
  ("severity", .text rule.severity),
  ("location", .text rule.location)]

def Compliance.toJson (compliance : Compliance) : Json := .object [
  ("frameworks", .texts compliance.frameworks),
  ("rules", .list (compliance.rules.map (·.toJson)))]

def Metadata.toJson (metadata : Metadata) : Json := .object [
  ("name", .text metadata.name),
  ("description", .text metadata.description),
  ("version", .text metadata.version),
  ("tags", .texts metadata.tags),
  ("platforms", .texts metadata.platforms)]

/-- Whether all values of a field can be copied. Those of its rules lie three calls deeper. -/
def Field.isCopied (room : Room) (field : Field) : Bool :=
  field.default.isCopied room.copying && field.validation.all (·.value.isCopied (room.copying - 3))

def Field.isWritten (room : Room) (field : Field) : Bool :=
  field.default.isWritten room && field.validation.all (·.value.isWritten room)

namespace Specification

def toJson (spec : Specification) : Json := .object [
  ("metadata", spec.metadata.toJson),
  ("schema_version", .text spec.schemaVersion),
  ("entities", .list (spec.entities.map (·.toJson encode))),
  ("flows", .list (spec.flows.map (·.toJson))),
  ("architecture", spec.architecture.toJson),
  ("compliance", spec.compliance.toJson)]

/-- The text of a value that JSON does not have. A set is told as a copy of it is. -/
def foreignText : Doc → String
  | .scalar value => value.plain
  | .set members => Doc.membersLiteral (Members.copied members)
  | value => value.literal

/-- The text whose digest is the fingerprint; what JSON does not have stands in it as its text. -/
def payload (spec : Specification) : String :=
  (spec.toJson fun value => .text (foreignText value)).sorted.write

def fingerprint (spec : Specification) : String :=
  Sha256.hexDigestOfText spec.payload

/-- The limit at which taking the fingerprint ends. All is copied before anything is written. -/
def fingerprintLimit? (room : Room) (spec : Specification) : Option Limit :=
  let fields := spec.entities.flatMap (·.fields)
  if !fields.all (·.isCopied room) then some .calls
  else if !fields.all (·.isWritten room) then some room.unspelled
  else none

end Specification

end Prism
