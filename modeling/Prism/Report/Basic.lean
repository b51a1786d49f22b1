import Prism.Analysis.Consistency
import Prism.Analysis.Optimization
import Prism.Json.Writer
import Prism.Validation.Summary

namespace Prism

structure SpecificationInfo where
  name : String
  version : String
  schemaVersion : String
  fingerprint : String
  entities : Nat
  flows : Nat
  components : Nat
  rules : Nat
  deriving DecidableEq, Repr

structure ReportSummary where
  totalTargets : Nat
  successful : Nat
  failed : Nat
  missing : Nat
  overallConsistency : Float
  overallImprovement : Float
  validationSuccessRate : Float

structure TargetEvidence where
  targetId : String
  success : Bool
  files : Nat
  bytes : Nat
  variations : Nat
  validationPassed : Bool
  preservation : List (String × Number) := []
  error : Option GenerationError := none
  highlights : List String := []

structure EvidenceReport where
  title : String
  specification : SpecificationInfo
  complete : Bool
  summary : ReportSummary
  targets : List TargetEvidence
  consistency : ConsistencyReport
  optimization : OptimizationReport
  validation : List ValidationSummary
  missingTargets : List String := []
  conclusions : List String := []
  recommendations : List String := []

def SpecificationInfo.toJson (info : SpecificationInfo) : Json := .object [
  ("name", .text info.name),
  ("version", .text info.version),
  ("schema_version", .text info.schemaVersion),
  ("fingerprint", .text info.fingerprint),
  ("entities", .ofNat info.entities),
  ("flows", .ofNat info.flows),
  ("components", .ofNat info.components),
  ("rules", .ofNat info.rules)]

def ReportSummary.toJson (summary : ReportSummary) : Json := .object [
  ("total_targets", .ofNat summary.totalTargets),
  ("successful", .ofNat summary.successful),
  ("failed", .ofNat summary.failed),
  ("missing", .ofNat summary.missing),
  ("overall_consistency", .float summary.overallConsistency),
  ("overall_improvement", .float summary.overallImprovement),
  ("validation_success_rate", .float summary.validationSuccessRate)]

def TargetEvidence.toJson (evidence : TargetEvidence) : Json := .object [
  ("target_id", .text evidence.targetId),
  ("success", .bool evidence.success),
  ("files", .ofNat evidence.files),
  ("bytes", .ofNat evidence.bytes),
  ("variations", .ofNat evidence.variations),
  ("validation_passed", .bool evidence.validationPassed),
  ("preservation", .object (evidence.preservation.map fun (name, score) => (name, .ofNumber score))),
  ("error", Json.ofOption GenerationError.toJson evidence.error),
  ("highlights", .texts evidence.highlights)]

def ConsistencyMetric.toJson (metric : ConsistencyMetric) : Json := .object [
  ("dimension", .text (label metric.dimension)),
  ("consistency", .ofNumber metric.consistency),
  ("completeness", .ofNumber metric.completeness),
  ("accuracy", .ofNumber metric.accuracy),
  ("variations", .list (metric.variations.map Variation.toJson)),
  ("applicable_targets", .texts metric.applicableTargets),
  ("consistent_targets", .texts metric.consistentTargets)]

def ConsistencyReport.toJson (report : ConsistencyReport) : Json := .object [
  ("metrics", .list (report.metrics.map ConsistencyMetric.toJson)),
  ("overall", .float report.overall)]

def OptimizationMetric.toJson (metric : OptimizationMetric) : Json := .object [
  ("target_id", .text metric.targetId),
  ("optimization_id", .text metric.optimizationId),
  ("category", .text (label metric.category)),
  ("metric", .text metric.metric),
  ("baseline", .float metric.baseline),
  ("optimized", .float metric.optimized),
  ("improvement", .float metric.improvement),
  ("technique", .text metric.technique),
  ("impact", .text (label metric.impact))]

def OptimizationSummary.toJson (summary : OptimizationSummary) : Json := .object [
  ("overall_improvement", .float summary.overallImprovement),
  ("best_performing", Json.ofOption .text summary.bestPerforming),
  ("most_optimized", Json.ofOption .text summary.mostOptimized),
  ("recommendations", .texts summary.recommendations)]

def OptimizationReport.toJson (report : OptimizationReport) : Json := .object [
  ("categories", .object (report.categories.map fun (category, metrics) =>
    (label category, .list (metrics.map OptimizationMetric.toJson)))),
  ("summary", report.summary.toJson)]

def ValidationSummary.toJson (summary : ValidationSummary) : Json := .object [
  ("axis", .text summary.axis),
  ("passed", .ofNat summary.passed),
  ("failed", .ofNat summary.failed),
  ("total", .ofNat summary.total),
  ("success_rate", .float summary.successRate),
  ("critical_issues", .texts summary.criticalIssues),
  ("recommendations", .texts summary.recommendations)]

namespace EvidenceReport

def toJson (report : EvidenceReport) : Json := .object [
  ("title", .text report.title),
  ("specification", report.specification.toJson),
  ("complete", .bool report.complete),
  ("summary", report.summary.toJson),
  ("targets", .list (report.targets.map TargetEvidence.toJson)),
  ("consistency", report.consistency.toJson),
  ("optimization", report.optimization.toJson),
  ("validation", .list (report.validation.map ValidationSummary.toJson)),
  ("missing_targets", .texts report.missingTargets),
  ("conclusions", .texts report.conclusions),
  ("recommendations", .texts report.recommendations)]

/-- The report as a JSON file: members in order, one to a line. There is none when a whole number cannot be
written. -/
def jsonText (room : Room) (report : EvidenceReport) : Except Limit String :=
  if report.toJson.isSpelled room then .ok report.toJson.sorted.pretty else .error room.unspelled

end EvidenceReport

end Prism
