import Prism.Spec.Model

namespace Prism

/-- One malformed section or element of a document, or what stops the reading. -/
inductive DocumentProblem where
  | metadataName
  | entitiesNotList
  | flowsNotList
  | entityNames (position : Nat)
  | fieldsNotList (position : Nat)
  | fieldName (entity : String) (position : Nat)
  | fieldType (entity field : String) (given : Doc)
  | flowNames (position : Nat)
  | stepsNotList (flow : String)
  | stepName (flow : String) (position : Nat)
  | stepType (flow step : String) (given : Doc)
  | componentName (position : Nat)
  | ruleId (position : Nat)
  | ruleImplementation (rule : String)
  | stopped (obstacle : Obstacle)

namespace DocumentProblem

def message : DocumentProblem → String
  | metadataName => "metadata.name is required"
  | entitiesNotList => "entities must be a list"
  | flowsNotList => "flows must be a list"
  | entityNames position => "Entity " ++ position.repr ++ ": id and name are required"
  | fieldsNotList position => "Entity " ++ position.repr ++ ": fields must be a list"
  | fieldName entity position =>
    "Entity '" ++ entity ++ "' field " ++ position.repr ++ ": id or name is required"
  | fieldType entity field given =>
    "Entity '" ++ entity ++ "' field '" ++ field ++ "': unknown type " ++ given.literal
  | flowNames position => "Flow " ++ position.repr ++ ": id and name are required"
  | stepsNotList flow => "Flow '" ++ flow ++ "': steps must be a list"
  | stepName flow position =>
    "Flow '" ++ flow ++ "' step " ++ position.repr ++ ": id or name is required"
  | stepType flow step given =>
    "Flow '" ++ flow ++ "' step '" ++ step ++ "': unknown type " ++ given.literal
  | componentName position =>
    "Architecture component " ++ position.repr ++ ": id or name is required"
  | ruleId position => "Compliance rule " ++ position.repr ++ ": id is required"
  | ruleImplementation rule => "Compliance rule '" ++ rule ++ "': unknown implementation type"
  | stopped obstacle => obstacle.message

/-- The obstacle that ends the reading of a document before its problems can be told. -/
def obstacle? : DocumentProblem → Option Obstacle
  | stopped obstacle => some obstacle
  | _ => none

end DocumentProblem

inductive DocumentFault where
  | rootNotMapping
  | unsupportedVersion (given : Doc)
  | malformed (problems : List DocumentProblem)
  | stopped (obstacle : Obstacle)

namespace DocumentFault

def message : DocumentFault → String
  | rootNotMapping => "Specification document must be a mapping at the root"
  | unsupportedVersion given =>
    "Specification schema version " ++ given.literal ++ " is not supported (supported: " ++
      String.intercalate ", " supportedVersions ++ ")"
  | malformed problems =>
    "Specification document is malformed: " ++
      String.intercalate "; " (problems.map DocumentProblem.message)
  | stopped obstacle => obstacle.message

def ofProblems (problems : List DocumentProblem) : DocumentFault :=
  match problems.findSome? DocumentProblem.obstacle? with
  | some obstacle => stopped obstacle
  | none => malformed problems

def problems : DocumentFault → List String
  | malformed problems => problems.map DocumentProblem.message
  | _ => []

end DocumentFault

end Prism
