import Prism.Report.Basic
import Prism.Spec.Fingerprint

namespace Prism

/-- Variations that weigh much. -/
def Variation.isSevere (variation : Variation) : Bool :=
  variation.impact = .high || variation.impact = .critical

namespace EvidenceReport

def specificationInfo (spec : Specification) : SpecificationInfo where
  name := spec.metadata.name
  version := spec.metadata.version
  schemaVersion := spec.schemaVersion
  fingerprint := spec.fingerprint
  entities := spec.entities.length
  flows := spec.flows.length
  components := spec.architecture.components.length
  rules := spec.compliance.rules.length

/-- What is worth telling about a target in one line each. -/
def highlights (result : GenerationResult) : List String :=
  (if result.success then
    let mapped := result.features.filterMap fun feature =>
      (feature.featureId.filter (!·.isEmpty)).map fun id => feature.capability ++ " via " ++ id
    let severe := result.variations.countP (·.isSevere)
    [result.output.files.length.repr ++ " artifact(s), " ++ result.output.totalBytes.repr ++
      " bytes"] ++
    (if result.optimizationsApplied.isEmpty then []
      else ["Optimizations: " ++ String.intercalate ", " result.optimizationsApplied]) ++
    (if mapped.isEmpty then [] else ["Capabilities: " ++ String.intercalate ", " mapped]) ++
    (if severe = 0 then [] else [severe.repr ++ " high-impact variation(s)"])
  else match result.error with
    | some error => [label error.kind ++ ": " ++ error.message]
    | none => []) ++
  (if result.attempts > 1 then ["Took " ++ result.attempts.repr ++ " attempts"] else [])

def targetEvidence (result : GenerationResult) : TargetEvidence where
  targetId := result.targetId
  success := result.success
  files := result.output.files.length
  bytes := result.output.totalBytes
  variations := result.variations.length
  validationPassed := result.validation.any (·.passed)
  preservation := [
    ("consistency", result.score.consistency.value),
    ("completeness", result.score.completeness.value),
    ("accuracy", result.score.accuracy.value),
    ("traceability", result.score.traceability.value)]
  error := result.error
  highlights := highlights result

/-- The first of the least consistent metrics that are not fully consistent. -/
def weakest? (metrics : List ConsistencyMetric) : Option ConsistencyMetric :=
  match metrics.filter (·.consistency.lt (.float 1.0)) with
  | [] => none
  | first :: rest => some (rest.foldl (fun lowest next =>
      if next.consistency.lt lowest.consistency then next else lowest) first)

def conclude (summary : ReportSummary) (consistency : ConsistencyReport)
    (optimization : OptimizationReport) (missing : List String) : List String :=
  [summary.successful.repr ++ " of " ++ summary.totalTargets.repr ++
    " target(s) compiled successfully"] ++
  (if missing.isEmpty then []
    else ["Run incomplete; no result for: " ++ String.intercalate ", " missing]) ++
  ["Average cross-target consistency: " ++ Decimal.fixedText 2 summary.overallConsistency] ++
  (match weakest? consistency.metrics with
    | some metric => ["Least consistent dimension: " ++ label metric.dimension ++ " (" ++
        Decimal.fixedText 2 metric.consistency.nearest ++ ")"]
    | none =>
      if consistency.metrics.isEmpty then []
      else ["Every dimension was preserved without variation"]) ++
  (match optimization.summary.bestPerforming.filter (!·.isEmpty) with
    | some id => ["Best performing target: " ++ id]
    | none => []) ++
  (match optimization.summary.mostOptimized.filter (!·.isEmpty) with
    | some id => ["Smallest emitted bundle: " ++ id]
    | none => [])

/-- What to do next, each once. -/
def recommend (results : List GenerationResult) (consistency : ConsistencyReport)
    (optimization : OptimizationReport) (validation : List ValidationSummary) : List String :=
  let dimensions := consistency.metrics.filterMap fun metric =>
    if metric.variations.any (·.isSevere) then
      some ("Resolve high-impact " ++ label metric.dimension ++ " variations")
    else none
  let fixes := results.filterMap fun result =>
    if result.success then none
    else result.error.map fun error => "Fix " ++ result.targetId ++ ": " ++ error.message
  (dimensions ++ fixes ++ validation.flatMap (·.recommendations) ++
    optimization.summary.recommendations).eraseDups

/-- Builds the report. Missing targets have no result because the run was interrupted; a report
with missing targets is incomplete. -/
def build (spec : Specification) (results : List GenerationResult)
    (consistency : ConsistencyReport) (optimization : OptimizationReport)
    (validation : List ValidationSummary) (missing : List String) (title : Option String) :
    EvidenceReport :=
  let successful := results.countP (·.success)
  let overall := validation.find? (·.axis = ValidationSummary.overallName)
  let summary : ReportSummary := {
    totalTargets := results.length + missing.length
    successful
    failed := results.length - successful
    missing := missing.length
    overallConsistency := Decimal.roundTo 4 consistency.overall
    overallImprovement := optimization.summary.overallImprovement
    validationSuccessRate := (overall.map fun item => Decimal.roundTo 4 item.successRate).getD 0.0 }
  { title := (title.filter (!·.isEmpty)).getD ("Compilation evidence for " ++ spec.metadata.name)
    specification := specificationInfo spec
    complete := missing.isEmpty
    summary
    targets := results.map targetEvidence
    consistency
    optimization
    validation
    missingTargets := missing
    conclusions := conclude summary consistency optimization missing
    recommendations := recommend results consistency optimization validation }

end EvidenceReport

end Prism
