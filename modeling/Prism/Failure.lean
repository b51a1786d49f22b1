import Prism.Contract.Declared
import Prism.Result
import Prism.Spec.Fingerprint

namespace Prism

/-- How many elements a specification has in each dimension. -/
def Specification.elementCount (spec : Specification) : Dimension → Nat
  | .businessLogic => spec.flows.length
  | .security => spec.compliance.rules.length
  | .dataModels | .userInterface | .apiContracts | .errorHandling => spec.entities.length

def Coverage.none (spec : Specification) (target : Target) : List Coverage :=
  Dimension.all.map fun dimension =>
    { dimension
      covered := 0
      total := spec.elementCount dimension
      applicable := target.applies dimension }

def GenerationResult.failed (spec : Specification) (target : Target) (error : GenerationError)
    (fingerprint : String) (attempts : Nat) : GenerationResult where
  targetId := target.id
  fingerprint := if fingerprint.isEmpty then spec.fingerprint else fingerprint
  success := false
  output := {}
  score := Preservation.zero (label error.kind ++ ": " ++ error.message)
  performance := target.baseline
  coverage := Coverage.none spec target
  error := some error
  attempts := attempts

/-- The validation of a result that failed: every axis fails with the error as its evidence. -/
def ValidationOutcome.failed (result : GenerationResult) (axes : List String) :
    ValidationOutcome :=
  let evidence := match result.error with
    | some error => "Generation failed (" ++ label error.kind ++ "): " ++ error.message
    | none => "Generation failed"
  { axes := axes.map fun axis =>
      { axis, passed := false, confidence := .float 1.0, evidence } }

def GenerationError.timeout (target : Target) (seconds : Float) : GenerationError where
  kind := .targetTimeout
  message := "Target '" ++ target.id ++ "' exceeded its " ++
    Decimal.generalText 6 seconds ++ "s budget"

end Prism
