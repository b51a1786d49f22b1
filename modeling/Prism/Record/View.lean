import Prism.View

namespace Prism

def RelationView.toJson (view : RelationView) : Json := .object [
  ("name", .text view.name),
  ("target_class", .text view.targetClass),
  ("many", .bool view.many)]

def EntityView.toJson (view : EntityView) : Json := .object [
  ("id", .text view.id),
  ("name", .text view.name),
  ("class_name", .text view.className),
  ("var_name", .text view.varName),
  ("module", .text view.moduleName),
  ("description", .text view.description),
  ("base_path", .text view.basePath),
  ("relationships", .list (view.relationships.map RelationView.toJson)),
  ("related_classes", .texts view.relatedClasses),
  ("has_id_field", .bool view.hasIdField)]

def FieldView.toJson (view : FieldView) : Json := .object [
  ("name", .text view.name),
  ("label", .text view.text),
  ("native_type", .text view.nativeType),
  ("family", .text (label view.family)),
  ("required", .bool view.required),
  ("canonical", .text view.canonical)]

def OperationView.toJson (view : OperationView) : Json := .object [
  ("name", .text view.name), ("method", .text view.method), ("route", .text view.route)]

def StepView.toJson (view : StepView) : Json := .object [
  ("id", .text view.id),
  ("name", .text view.name),
  ("type", .text view.type),
  ("handler", .text view.handler),
  ("entity_class", .text view.entityClass),
  ("next_handlers", .texts view.nextHandlers),
  ("is_entry", .bool view.isEntry)]

def FlowView.toJson (view : FlowView) : Json := .object [
  ("id", .text view.id),
  ("name", .text view.name),
  ("class_name", .text view.className),
  ("var_name", .text view.varName),
  ("description", .text view.description),
  ("route", .text view.route),
  ("roles", .texts view.roles)]

def ComponentView.toJson (view : ComponentView) : Json := .object [
  ("id", .text view.id),
  ("name", .text view.name),
  ("class_name", .text view.className),
  ("type", .text view.type),
  ("layer", .text view.layer),
  ("responsibilities", .texts view.responsibilities),
  ("dependencies", .texts view.dependencies)]

def RuleView.toJson (view : RuleView) : Json := .object [
  ("id", .text view.id),
  ("name", .text view.name),
  ("keyword", .text view.keyword),
  ("function", .text view.function),
  ("location", .text view.location),
  ("framework", .text view.framework),
  ("severity", .text view.severity)]

def Specification.viewsJson (spec : Specification) (convention : Convention) : Json := .object [
  ("entities", .list (spec.entities.map fun entity => .object [
    ("view", EntityView.toJson (.of spec convention entity)),
    ("fields", .list (entity.fields.map fun field => FieldView.toJson (.of convention field))),
    ("operations", .list ((OperationView.all entity).map OperationView.toJson))])),
  ("flows", .list (spec.flows.map fun flow => .list [
    FlowView.toJson (.of convention flow),
    .list ((StepView.all spec convention flow).map StepView.toJson)])),
  ("components", .list (spec.architecture.components.map fun component =>
    ComponentView.toJson (.of spec component))),
  ("rules", .list (spec.compliance.rules.map fun rule => RuleView.toJson (.of convention rule)))]

/-- A name in every casing, and as an identifier of every language. -/
def Words.toJson (name : String) : Json := .object [
  ("words", .texts (Words.split name)),
  ("key", .text (Words.key name)),
  ("camel", .text (Words.camel name)),
  ("pascal", .text (Words.pascal name)),
  ("snake", .text (Words.snake name)),
  ("kebab", .text (Words.kebab name)),
  ("canonical", .text (Words.canonical name)),
  ("clean", .text (Prose.clean name)),
  ("identifiers", .object ((Labelled.all : List Language).map fun language =>
    (label language, .text ((Convention.of language).identifier name))))]

end Prism
