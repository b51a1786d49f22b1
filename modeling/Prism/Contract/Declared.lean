import Prism.Contract.Basic
import Prism.Words

namespace Prism

inductive Operation where
  | list | get | create | update | delete
  deriving DecidableEq, Repr

namespace Operation

def all : List Operation := [.list, .get, .create, .update, .delete]

def name : Operation → String
  | .list => "list"
  | .get => "get"
  | .create => "create"
  | .update => "update"
  | .delete => "delete"

def method : Operation → String
  | .list | .get => "GET"
  | .create => "POST"
  | .update => "PUT"
  | .delete => "DELETE"

/-- What follows the path of the entity: an operation on one record names its id. -/
def suffix : Operation → String
  | .list | .create => ""
  | .get | .update | .delete => "/\x7bid\x7d"

end Operation

/-- The verb that puts a rule into force. -/
def Enforcement.keyword : Enforcement → String
  | .encryption => "encrypt"
  | .accessControl => "authorize"
  | .validation => "validate"
  | .transformation => "transform"

def Entity.subject (entity : Entity) : String := "entity:" ++ entity.id
def Flow.subject (flow : Flow) : String := "flow:" ++ flow.id
def Component.subject (component : Component) : String := "component:" ++ component.id
def ComplianceRule.subject (rule : ComplianceRule) : String := "rule:" ++ rule.id

def Entity.basePath (entity : Entity) : String := "/api/" ++ Words.kebab entity.name

def Entity.route (entity : Entity) (operation : Operation) : String :=
  entity.basePath ++ operation.suffix

/-- The name of a step's handler without regard to a language. -/
def FlowStep.handler (step : FlowStep) : String := Words.canonical ("handle_" ++ step.id)

def Specification.errorCodes (spec : Specification) : List String :=
  ["NOT_FOUND", "INVALID_INPUT"] ++ if spec.requiresAuth then ["UNAUTHORIZED"] else []

/-- The user interface applies only to targets that have one. -/
def Target.applies (target : Target) (dimension : Dimension) : Bool :=
  dimension ≠ .userInterface || target.hasUserInterface

def Target.dimensions (target : Target) : List Dimension :=
  Dimension.all.filter target.applies

def Entity.fieldElements (entity : Entity) : List ContractElement :=
  entity.fields.map fun field =>
    { name := Words.canonical field.id
      family := some field.family
      required := field.required
      nativeType := label field.type }

def Entity.operationElements (entity : Entity) : List ContractElement :=
  Operation.all.map fun operation =>
    { name := operation.name
      required := true
      nativeType := operation.method ++ " " ++ entity.route operation }

def Specification.errorElements (spec : Specification) : List ContractElement :=
  spec.errorCodes.map fun code => { name := code, required := true }

def Flow.stepElements (flow : Flow) : List ContractElement :=
  flow.steps.map fun step =>
    { name := step.handler, required := true, nativeType := label step.type }

namespace Specification

def contractsIn (spec : Specification) (dimension : Dimension) : List Contract :=
  match dimension with
  | .dataModels | .userInterface =>
    spec.entities.map fun entity => ⟨dimension, entity.subject, entity.fieldElements⟩
  | .apiContracts =>
    spec.entities.map fun entity => ⟨dimension, entity.subject, entity.operationElements⟩
  | .errorHandling =>
    spec.entities.map fun entity => ⟨dimension, entity.subject, spec.errorElements⟩
  | .businessLogic =>
    spec.flows.map fun flow => ⟨dimension, flow.subject, flow.stepElements⟩
  | .security =>
    spec.compliance.rules.map fun rule =>
      ⟨dimension, rule.subject, [{ name := rule.implementation.keyword, required := true }]⟩

/-- The declared contracts by dimension, for the dimensions that apply to the target. -/
def declared (spec : Specification) (target : Target) (dimension : Dimension) :
    Option (List Contract) :=
  if target.applies dimension then some (spec.contractsIn dimension) else none

end Specification

end Prism
