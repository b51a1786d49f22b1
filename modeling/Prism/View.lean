import Prism.Contract.Declared
import Prism.Convention

namespace Prism

namespace Prose

/-- Fields with one space between them. -/
def spaced : List (List Char) → List Char
  | [] => []
  | [field] => field
  | field :: fields => field ++ ' ' :: spaced fields

/-- Writes double quotes and backticks as single quotes. -/
def plainQuote (c : Char) : Char :=
  if c = '"' || c = '\x60' then '\'' else c

def cleanChars (text : List Char) : List Char :=
  (Text.replaceFrom ['*', '/'] ['*', ' ', '/'] 0 (spaced (Text.blankFields text))).map plainQuote

/-- The text on one line, safe inside comments and literals. -/
def clean (text : String) : String :=
  String.ofList (cleanChars text.toList)

end Prose

structure FieldView where
  name : String
  text : String
  nativeType : String
  family : TypeFamily
  required : Bool
  canonical : String
  deriving DecidableEq, Repr

structure RelationView where
  name : String
  targetClass : String
  many : Bool
  deriving DecidableEq, Repr

structure EntityView where
  id : String
  name : String
  className : String
  varName : String
  moduleName : String
  description : String
  basePath : String
  relationships : List RelationView
  relatedClasses : List String
  hasIdField : Bool
  deriving DecidableEq, Repr

structure OperationView where
  operation : Operation
  route : String
  deriving DecidableEq, Repr

def OperationView.name (view : OperationView) : String := view.operation.name

def OperationView.method (view : OperationView) : String := view.operation.method

structure StepView where
  id : String
  name : String
  type : String
  handler : String
  entityClass : String
  nextHandlers : List String
  isEntry : Bool
  deriving DecidableEq, Repr

structure FlowView where
  id : String
  name : String
  className : String
  varName : String
  description : String
  route : String
  roles : List String
  deriving DecidableEq, Repr

structure ComponentView where
  id : String
  name : String
  className : String
  type : String
  layer : String
  responsibilities : List String
  dependencies : List String
  deriving DecidableEq, Repr

structure RuleView where
  id : String
  name : String
  keyword : String
  function : String
  location : String
  framework : String
  severity : String
  deriving DecidableEq, Repr

def FieldView.of (convention : Convention) (field : Field) : FieldView :=
  let native := convention.typeFor field.type
  { name := convention.identifier field.id
    text := Prose.clean field.name
    nativeType := native.name
    family := native.family
    required := field.required
    canonical := Words.canonical field.id }

def Relationship.isMany (relationship : Relationship) : Bool :=
  relationship.type = "one-to-many" || relationship.type = "many-to-many"

def Relationship.targetClass (spec : Specification) (relationship : Relationship) : String :=
  match spec.entity? relationship.targetEntity with
  | some entity => Words.pascal entity.name
  | none => Words.pascal relationship.targetEntity

def RelationView.of (spec : Specification) (convention : Convention) (relationship : Relationship) :
    RelationView where
  name := convention.identifier relationship.name
  targetClass := relationship.targetClass spec
  many := relationship.isMany

def EntityView.of (spec : Specification) (convention : Convention) (entity : Entity) : EntityView :=
  let className := Words.pascal entity.name
  let relationships := entity.relationships.map (RelationView.of spec convention)
  { id := entity.id
    name := Prose.clean entity.name
    className
    varName := convention.identifier entity.name
    moduleName := convention.identifier entity.name
    description := Prose.clean entity.description
    basePath := entity.basePath
    relationships
    relatedClasses := ((relationships.map (·.targetClass)).filter (· ≠ className)).eraseDups
    hasIdField := entity.fields.any fun field => Words.canonical field.id = "id" }

def OperationView.all (entity : Entity) : List OperationView :=
  Operation.all.map fun operation => { operation, route := entity.route operation }

def Convention.stepHandler (convention : Convention) (stepId : String) : String :=
  convention.identifier ("handle_" ++ stepId)

/-- A step that no step of the flow leads to is where the flow is entered. -/
def StepView.of (spec : Specification) (convention : Convention) (flow : Flow) (step : FlowStep) :
    StepView where
  id := step.id
  name := Prose.clean step.name
  type := label step.type
  handler := convention.stepHandler step.id
  entityClass := match (step.entity.filter (!·.isEmpty)).bind spec.entity? with
    | some entity => Words.pascal entity.name
    | none => ""
  nextHandlers := (step.nextSteps.filter fun next => flow.steps.any (·.id = next)).map
    convention.stepHandler
  isEntry := !flow.steps.any fun other => other.nextSteps.contains step.id

def StepView.all (spec : Specification) (convention : Convention) (flow : Flow) : List StepView :=
  flow.steps.map (StepView.of spec convention flow)

def FlowView.of (convention : Convention) (flow : Flow) : FlowView where
  id := flow.id
  name := Prose.clean flow.name
  className := Words.pascal flow.name
  varName := convention.identifier flow.name
  description := Prose.clean flow.description
  route := Words.kebab flow.name
  roles := (flow.auth.map fun requirement => Prose.clean requirement.role).eraseDups

/-- The last component with that id. -/
def Specification.component? (spec : Specification) (id : String) : Option Component :=
  spec.architecture.components.reverse.find? (·.id = id)

def ComponentView.of (spec : Specification) (component : Component) : ComponentView where
  id := component.id
  name := Prose.clean component.name
  className := Words.pascal component.name
  type := component.type
  layer := Prose.clean component.layer
  responsibilities := component.responsibilities.map Prose.clean
  dependencies := component.dependencies.filterMap fun dependency =>
    (spec.component? dependency).map fun other => Words.pascal other.name

def RuleView.of (convention : Convention) (rule : ComplianceRule) : RuleView :=
  let keyword := rule.implementation.keyword
  { id := rule.id
    name := Prose.clean rule.name
    keyword
    function := convention.identifier (keyword ++ "_" ++ rule.id)
    location := if rule.location.isEmpty then "*" else rule.location
    framework := Prose.clean rule.framework
    severity := rule.severity }

end Prism
