import Prism.Spec.Model
import Prism.Target.Basic

namespace Prism

/-- The aspects of the logic that are followed across targets. -/
inductive Dimension where
  | businessLogic | dataModels | userInterface | apiContracts | errorHandling | security
  deriving DecidableEq, Repr, Inhabited

instance : Labelled Dimension where
  all := [.businessLogic, .dataModels, .userInterface, .apiContracts, .errorHandling, .security]
  label
    | .businessLogic => "business_logic"
    | .dataModels => "data_models"
    | .userInterface => "user_interface"
    | .apiContracts => "api_contracts"
    | .errorHandling => "error_handling"
    | .security => "security"

def Dimension.all : List Dimension := Labelled.all

/-- A field, an operation, a step or a rule. -/
structure ContractElement where
  name : String
  family : Option TypeFamily := none
  required : Bool := false
  nativeType : String := ""
  deriving DecidableEq, Repr, Inhabited

structure Contract where
  dimension : Dimension
  subject : String
  elements : List ContractElement := []
  deriving DecidableEq, Repr, Inhabited

def Contract.element? (contract : Contract) (name : String) : Option ContractElement :=
  contract.elements.find? (·.name = name)

/-- A difference between what was declared and what was emitted. -/
structure Variation where
  dimension : Dimension
  targetId : String
  subject : String
  element : String
  description : String
  impact : Impact
  expected : String := ""
  actual : String := ""
  deriving DecidableEq, Repr, Inhabited

def Variation.toJson (variation : Variation) : Json := .object [
  ("dimension", .text (label variation.dimension)),
  ("target_id", .text variation.targetId),
  ("subject", .text variation.subject),
  ("element", .text variation.element),
  ("description", .text variation.description),
  ("impact", .text (label variation.impact)),
  ("expected", .text variation.expected),
  ("actual", .text variation.actual)]

/-- How many of the declared contracts of a dimension were emitted. -/
structure Coverage where
  dimension : Dimension
  covered : Int
  total : Int
  applicable : Bool := true
  deriving DecidableEq, Repr, Inhabited

/-- A part of a whole as a fraction; of nothing it is zero. -/
def fraction (part whole : Nat) : Float :=
  if whole = 0 then 0.0 else Decimal.ofRatio false part whole

def Coverage.ratio (coverage : Coverage) : Except NumberFault Float :=
  if coverage.total = 0 then .ok 0.0 else Number.quotient coverage.covered coverage.total

end Prism
