import Prism.Bundle

namespace Prism

inductive ErrorKind where
  | specInvalid | schemaVersionUnsupported | templateMissing | targetTimeout | runTimeout
  | runCancelled | targetNotFound | transientFailure | generationError | configError
  deriving DecidableEq, Repr, Inhabited

instance : Labelled ErrorKind where
  all := [.specInvalid, .schemaVersionUnsupported, .templateMissing, .targetTimeout, .runTimeout,
    .runCancelled, .targetNotFound, .transientFailure, .generationError, .configError]
  label
    | .specInvalid => "SpecInvalid"
    | .schemaVersionUnsupported => "SchemaVersionUnsupported"
    | .templateMissing => "TemplateMissing"
    | .targetTimeout => "TargetTimeout"
    | .runTimeout => "RunTimeout"
    | .runCancelled => "RunCancelled"
    | .targetNotFound => "TargetNotFound"
    | .transientFailure => "TransientFailure"
    | .generationError => "GenerationError"
    | .configError => "ConfigError"

structure GenerationError where
  kind : ErrorKind
  message : String
  problems : List String := []
  deriving DecidableEq, Repr, Inhabited

def GenerationError.toJson (error : GenerationError) : Json := .object [
  ("kind", .text (label error.kind)),
  ("message", .text error.message),
  ("problems", .texts error.problems)]

/-- A value between zero and one with the notes that give its reason. -/
structure Score where
  value : Number
  notes : List String := []
  deriving Inhabited

structure Preservation where
  consistency : Score
  completeness : Score
  accuracy : Score
  traceability : Score
  dimensionAccuracy : List (Dimension × Number) := []
  deriving Inhabited

def Preservation.zero (reason : String) : Preservation :=
  let none : Score := ⟨.float 0.0, [reason]⟩
  { consistency := none
    completeness := none
    accuracy := none
    traceability := none
    dimensionAccuracy := Dimension.all.map fun dimension => (dimension, .float 0.0) }

/-- How a capability that the specification needs is met by the target. -/
structure MappedFeature where
  capability : String
  featureId : Option String
  implementation : String
  exercised : Bool
  deriving DecidableEq, Repr, Inhabited

structure ValidationDetail where
  subject : String
  message : String
  passed : Bool
  severity : String := "info"
  deriving DecidableEq, Repr, Inhabited

structure AxisOutcome where
  axis : String
  passed : Bool
  confidence : Number
  evidence : String
  details : List ValidationDetail := []
  deriving Inhabited

structure ValidationOutcome where
  axes : List AxisOutcome := []
  deriving Inhabited

namespace ValidationOutcome

/-- Every axis passed, and there is one. -/
def passed (outcome : ValidationOutcome) : Bool :=
  !outcome.axes.isEmpty && outcome.axes.all (·.passed)

def confidence (outcome : ValidationOutcome) : Except NumberFault Float :=
  Number.mean (outcome.axes.map (·.confidence))

def axis? (outcome : ValidationOutcome) (name : String) : Option AxisOutcome :=
  outcome.axes.find? (·.axis = name)

end ValidationOutcome

structure GenerationResult where
  targetId : String
  fingerprint : String
  success : Bool
  output : OutputBundle
  score : Preservation
  performance : Performance
  features : List MappedFeature := []
  coverage : List Coverage := []
  variations : List Variation := []
  optimizationsApplied : List String := []
  error : Option GenerationError := none
  validation : Option ValidationOutcome := none
  attempts : Nat := 1
  deriving Inhabited

namespace GenerationResult

def coverageFor? (result : GenerationResult) (dimension : Dimension) : Option Coverage :=
  result.coverage.find? (·.dimension = dimension)

def variationsFor (result : GenerationResult) (dimension : Dimension) : List Variation :=
  result.variations.filter (·.dimension = dimension)

end GenerationResult

end Prism
