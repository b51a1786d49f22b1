import Prism.Spec.Model
import Prism.Words

namespace Prism

/-- The kinds of elements whose names become identifiers. -/
inductive NameGroup where
  | entity
  | flow
  | component
  | fieldOf (entity : String)
  deriving DecidableEq, Repr

def NameGroup.text : NameGroup → String
  | .entity => "Entity"
  | .flow => "Flow"
  | .component => "Component"
  | .fieldOf owner => "Entity '" ++ owner ++ "' field"

inductive StructuralError where
  | duplicateEntity (id : String)
  | noIdentifier (group : NameGroup) (id name : String)
  | collision (group : NameGroup) (id name holder key : String)
  | relationshipTarget (entity relationship target : String)
  | constraintField (entity constraint field : String)
  | indexField (entity index field : String)
  | nextStep (flow step next : String)
  | stepEntity (flow step entity : String)
  | dependency (component dependency : String)
  | ruleLocation (rule location : String)
  deriving DecidableEq, Repr

namespace StructuralError

def nameLabel (group : NameGroup) (id name : String) : String :=
  if name = id then group.text ++ " '" ++ id ++ "'"
  else group.text ++ " '" ++ id ++ "' name '" ++ name ++ "'"

def message : StructuralError → String
  | .duplicateEntity id => "Duplicate entity id '" ++ id ++ "'"
  | .noIdentifier group id name =>
    nameLabel group id name ++ " has no ASCII letters or digits to build identifiers from"
  | .collision group id name holder key =>
    nameLabel group id name ++ " collides with '" ++ holder ++ "' as identifier '" ++ key ++ "'"
  | .relationshipTarget entity relationship target =>
    "Entity '" ++ entity ++ "' relationship '" ++ relationship ++ "' references unknown entity '" ++
      target ++ "'"
  | .constraintField entity constraint field =>
    "Entity '" ++ entity ++ "' constraint '" ++ constraint ++ "' references unknown field '" ++
      field ++ "'"
  | .indexField entity index field =>
    "Entity '" ++ entity ++ "' index '" ++ index ++ "' references unknown field '" ++ field ++ "'"
  | .nextStep flow step next =>
    "Flow '" ++ flow ++ "' step '" ++ step ++ "' continues to unknown step '" ++ next ++ "'"
  | .stepEntity flow step entity =>
    "Flow '" ++ flow ++ "' step '" ++ step ++ "' references unknown entity '" ++ entity ++ "'"
  | .dependency component needed =>
    "Component '" ++ component ++ "' depends on unknown component '" ++ needed ++ "'"
  | .ruleLocation rule location =>
    "Compliance rule '" ++ rule ++ "' targets unknown entity '" ++ location ++ "'"

end StructuralError

namespace Specification

/-- An id that stood before is an error each time it comes again. -/
def duplicateErrors (seen : List String) : List String → List StructuralError
  | [] => []
  | id :: ids =>
    if seen.contains id then .duplicateEntity id :: duplicateErrors seen ids
    else duplicateErrors (id :: seen) ids

/-- The names of a group in order. A key belongs to the first name that has it; `held` lists keys
with the ids of their holders. -/
def nameErrors (group : NameGroup) (held : List (String × String)) :
    List (String × String) → List StructuralError
  | [] => []
  | (id, name) :: names =>
    let key := Words.key name
    if key.isEmpty then .noIdentifier group id name :: nameErrors group held names
    else match held.lookup key with
      | some holder => .collision group id name holder key :: nameErrors group held names
      | none => nameErrors group ((key, id) :: held) names

def entityNameErrors (spec : Specification) : List StructuralError :=
  nameErrors .entity [] (spec.entities.map fun entity => (entity.id, entity.name)) ++
    nameErrors .flow [] (spec.flows.map fun flow => (flow.id, flow.name)) ++
    nameErrors .component []
      (spec.architecture.components.map fun component => (component.id, component.name)) ++
    spec.entities.flatMap fun entity =>
      nameErrors (.fieldOf entity.id) [] (entity.fields.map fun field => (field.id, field.id))

/-- References of an entity to other entities and to its own fields. -/
def entityErrors (spec : Specification) (entity : Entity) : List StructuralError :=
  (entity.relationships.filterMap fun relationship =>
    if (spec.entity? relationship.targetEntity).isSome then none
    else some (.relationshipTarget entity.id relationship.name relationship.targetEntity)) ++
  (entity.constraints.flatMap fun constraint => constraint.fields.filterMap fun name =>
    if (entity.fieldNamed? name).isSome then none
    else some (.constraintField entity.id constraint.name name)) ++
  (entity.indexes.flatMap fun index => index.fields.filterMap fun name =>
    if (entity.fieldNamed? name).isSome then none
    else some (.indexField entity.id index.name name))

/-- References of one step to steps of its flow and to an entity. -/
def stepErrors (spec : Specification) (flow : Flow) (step : FlowStep) : List StructuralError :=
  (step.nextSteps.filterMap fun next =>
    if flow.steps.any (·.id = next) then none else some (.nextStep flow.id step.id next)) ++
  match step.entity with
  | none => []
  | some reference =>
    if reference.isEmpty || (spec.entity? reference).isSome then []
    else [.stepEntity flow.id step.id reference]

def componentErrors (spec : Specification) (component : Component) : List StructuralError :=
  component.dependencies.filterMap fun dependency =>
    if spec.architecture.components.any (·.id = dependency) then none
    else some (.dependency component.id dependency)

def ruleErrors (spec : Specification) (rule : ComplianceRule) : List StructuralError :=
  if rule.isGeneral || (spec.entity? rule.location).isSome then []
  else [.ruleLocation rule.id rule.location]

def structuralErrors (spec : Specification) : List StructuralError :=
  duplicateErrors [] (spec.entities.map (·.id)) ++ spec.entityNameErrors ++
    spec.entities.flatMap spec.entityErrors ++
    spec.flows.flatMap (fun flow => flow.steps.flatMap (spec.stepErrors flow)) ++
    spec.architecture.components.flatMap spec.componentErrors ++
    spec.compliance.rules.flatMap spec.ruleErrors

end Specification

end Prism
