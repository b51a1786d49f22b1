import Prism.Contract.Compare
import Prism.Manifest
import Prism.Record.Bundle
import Prism.Result

namespace Prism

def Manifest.toJson (manifest : Manifest) : Json := .object [
  ("configuration", .list (manifest.configuration.map ConfigurationFile.toJson)),
  ("dependencies", .list (manifest.dependencies.map Dependency.toJson)),
  ("build_scripts", .list (manifest.buildScripts.map BuildScript.toJson))]

def Score.toJson (score : Score) : Json := .object [
  ("value", .ofNumber score.value), ("notes", .texts score.notes)]

def Preservation.toJson (score : Preservation) : Json := .object [
  ("consistency", Score.toJson score.consistency),
  ("completeness", Score.toJson score.completeness),
  ("accuracy", Score.toJson score.accuracy),
  ("traceability", Score.toJson score.traceability),
  ("dimension_accuracy", .object (score.dimensionAccuracy.map fun (dimension, value) =>
    (label dimension, .ofNumber value)))]

def MappedFeature.toJson (feature : MappedFeature) : Json := .object [
  ("capability", .text feature.capability),
  ("feature_id", Json.ofOption .text feature.featureId),
  ("implementation", .text feature.implementation),
  ("exercised", .bool feature.exercised)]

def Coverage.toJson (coverage : Coverage) : Json := .object [
  ("dimension", .text (label coverage.dimension)),
  ("covered", .int coverage.covered),
  ("total", .int coverage.total),
  ("applicable", .bool coverage.applicable)]

def Comparison.toJson (comparison : Comparison) : Json :=
  let counts (count : Tally → Nat) : Json := .object (comparison.tallies.map fun tally =>
    (label tally.dimension, .ofNat (count tally)))
  .object [
    ("variations", .list (comparison.variations.map Variation.toJson)),
    ("coverage", .list (comparison.coverage.map Coverage.toJson)),
    ("elements", counts (·.elements)),
    ("matched", counts (·.matched)),
    ("varied", counts (·.varied))]

def ValidationDetail.toJson (detail : ValidationDetail) : Json := .object [
  ("subject", .text detail.subject),
  ("message", .text detail.message),
  ("passed", .bool detail.passed),
  ("severity", .text detail.severity)]

def AxisOutcome.toJson (outcome : AxisOutcome) : Json := .object [
  ("axis", .text outcome.axis),
  ("passed", .bool outcome.passed),
  ("confidence", .ofNumber outcome.confidence),
  ("evidence", .text outcome.evidence),
  ("details", .list (outcome.details.map ValidationDetail.toJson))]

def ValidationOutcome.toJson (outcome : ValidationOutcome) : Json := .object [
  ("axes", .list (outcome.axes.map AxisOutcome.toJson))]

def GenerationResult.toJson (result : GenerationResult) : Json := .object [
  ("target_id", .text result.targetId),
  ("spec_fingerprint", .text result.fingerprint),
  ("success", .bool result.success),
  ("output", OutputBundle.toJson result.output),
  ("score", Preservation.toJson result.score),
  ("performance", result.performance.toJson),
  ("features", .list (result.features.map MappedFeature.toJson)),
  ("coverage", .list (result.coverage.map Coverage.toJson)),
  ("variations", .list (result.variations.map Variation.toJson)),
  ("optimizations_applied", .texts result.optimizationsApplied),
  ("error", Json.ofOption GenerationError.toJson result.error),
  ("validation", Json.ofOption ValidationOutcome.toJson result.validation),
  ("attempts", .ofNat result.attempts)]

end Prism
