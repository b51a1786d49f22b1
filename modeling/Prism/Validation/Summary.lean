import Prism.Validation.Axis

namespace Prism

def Axis.recommendation : Axis → String
  | .syntactic => "Review the templates that produced unparseable files"
  | .semantics => "Align target type mappings with the declared field types"
  | .businessLogic => "Ensure page templates render a handler for every flow step"
  | .platformCompliance => "Choose targets whose features cover the required capabilities"
  | .performance => "Enable size or performance optimizations for targets over budget"
  | .security => "Render an enforcement point for every compliance rule"

structure ValidationSummary where
  axis : String
  passed : Nat
  failed : Nat
  total : Nat
  successRate : Float
  criticalIssues : List String := []
  recommendations : List String := []

namespace ValidationSummary

def overallName : String := "overall"

/-- What a failed axis tells about a target: its critical details, or its evidence when it has no
details at all. -/
def issues (targetId : String) (outcome : AxisOutcome) : List String :=
  let critical := outcome.details.filter fun detail => !detail.passed && detail.severity = "critical"
  if !critical.isEmpty then
    critical.map fun detail => targetId ++ ": " ++ detail.subject ++ ": " ++ detail.message
  else if outcome.details.isEmpty then [targetId ++ ": " ++ outcome.evidence]
  else []

def ofAxis (validated : List (GenerationResult × ValidationOutcome)) (axis : Axis) :
    ValidationSummary :=
  let outcomes := validated.filterMap fun (result, validation) =>
    (validation.axis? (label axis)).map fun outcome => (result.targetId, outcome)
  let passed := outcomes.countP fun (_, outcome) => outcome.passed
  let failures := outcomes.filter fun (_, outcome) => !outcome.passed
  { axis := label axis
    passed
    failed := failures.length
    total := passed + failures.length
    successRate := fraction passed (passed + failures.length)
    criticalIssues := failures.flatMap fun (id, outcome) => issues id outcome
    recommendations := if failures.isEmpty then [] else [axis.recommendation] }

def overall (validated : List (GenerationResult × ValidationOutcome)) : ValidationSummary :=
  let passed := validated.countP fun (_, validation) => validation.passed
  let failures := (validated.filter fun (_, validation) => !validation.passed).map (·.1)
  { axis := overallName
    passed
    failed := failures.length
    total := validated.length
    successRate := fraction passed validated.length
    criticalIssues := failures.filterMap fun result =>
      result.error.map fun error => result.targetId ++ ": " ++ error.message
    recommendations :=
      if failures.isEmpty then []
      else ["Re-run or investigate failing targets: " ++
        String.intercalate ", " (failures.map (·.targetId))] }

/-- One summary for each axis, then the one over all. Results without validation do not count. -/
def all (results : List GenerationResult) : List ValidationSummary :=
  let validated := results.filterMap fun result =>
    result.validation.map fun validation => (result, validation)
  Axis.all.map (ofAxis validated) ++ [overall validated]

end ValidationSummary

end Prism
