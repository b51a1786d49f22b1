import Prism.Report.Basic
import Prism.Template.Source

namespace Prism

namespace Template.Report

def fixed (places : Nat) (value : Number) : String := Decimal.fixedText places value.nearest

/-- The score of that name; the evidence on a result has one. -/
def score (name : String) (evidence : TargetEvidence) : Number :=
  (evidence.preservation.lookup name).getD (.float 0.0)

def percent (rate : Float) : String := Decimal.fixedText 0 (rate * 100.0)

def variations (report : EvidenceReport) : List Variation :=
  report.consistency.metrics.flatMap (·.variations)

def overview : Template EvidenceReport := parts [
  parts [
    "# ", .hole (·.title), "\n",
    "\n",
    .only (!·.complete) (parts ["> **Incomplete run.** No result for: ",
      .hole (fun c => String.intercalate ", " c.missingTargets), "\n",
      "\n"]),
    "Specification **", .hole (·.specification.name), "** v", .hole (·.specification.version),
    " (schema ", .hole (·.specification.schemaVersion), ", fingerprint \x60",
    .hole (fun c => String.ofList (c.specification.fingerprint.toList.take 12)), "\x60): ",
    .hole (·.specification.entities.repr), " entities, ", .hole (·.specification.flows.repr), " flows, ",
    .hole (·.specification.components.repr), " components, ",
    .hole (·.specification.rules.repr), " compliance rules.\n",
    "\n"],
  parts [
    "## Summary\n",
    "\n",
    "| Targets | Successful | Failed | Missing | Consistency | Improvement | Validation |\n",
    "| --- | --- | --- | --- | --- | --- | --- |\n",
    "| ", .hole (·.summary.totalTargets.repr), " | ",
    .hole (·.summary.successful.repr), " | ", .hole (·.summary.failed.repr),
    " | ", .hole (·.summary.missing.repr), " | ",
    .hole (fun c => Decimal.fixedText 2 c.summary.overallConsistency), " | ",
    .hole (fun c => Decimal.fixedText 2 c.summary.overallImprovement), "% | ",
    .hole (fun c => percent c.summary.validationSuccessRate), "% |\n",
    "\n"]]

def targets : Template EvidenceReport := parts [
  "## Targets\n",
  "\n",
  "| Target | Status | Files | Bytes | Variations | Validation | Accuracy | Traceability |\n",
  "| --- | --- | --- | --- | --- | --- | --- | --- |\n",
  .each (·.targets) (parts [
    "| \x60", .hole (·.2.targetId), "\x60 | ",
    .hole (fun (_, target) => if target.success then "ok" else "failed"), " | ",
    .hole (·.2.files.repr), " | ", .hole (·.2.bytes.repr), " | ", .hole (·.2.variations.repr), " | ",
    .hole (fun (_, target) => if target.validationPassed then "passed" else "failed"), " | ",
    .hole (fun (_, target) => fixed 2 (score "accuracy" target)), " | ",
    .hole (fun (_, target) => fixed 2 (score "traceability" target)), " |\n"]),
  .each (fun c => c.targets.filter fun target => !target.highlights.isEmpty) (parts [
    "\n",
    "**", .hole (·.2.targetId), "**\n",
    .each (·.2.highlights) (parts ["- ", .hole (·.2), "\n"])]),
  "\n"]

def consistency : Template EvidenceReport := parts [
  "## Consistency\n",
  "\n",
  "| Dimension | Consistency | Completeness | Accuracy | Variations |\n",
  "| --- | --- | --- | --- | --- |\n",
  .each (·.consistency.metrics) (parts [
    "| ", .hole (label ·.2.dimension), " | ", .hole (fun (_, metric) => fixed 2 metric.consistency), " | ",
    .hole (fun (_, metric) => fixed 2 metric.completeness), " | ",
    .hole (fun (_, metric) => fixed 2 metric.accuracy), " | ", .hole (·.2.variations.length.repr), " |\n"]),
  .only (fun c => !(variations c).isEmpty) (parts ["\n",
    "### Variations\n",
    "\n",
    .each variations (parts [
      "- \x60", .hole (·.2.targetId), "\x60 ", .hole (·.2.subject), "/", .hole (·.2.element), ": ",
      .hole (·.2.description), " (", .hole (label ·.2.impact), ")\n"])]),
  "\n"]

def optimization : Template EvidenceReport := parts [
  "## Optimization\n",
  "\n",
  .each (fun c => c.optimization.categories.filter fun (_, metrics) => !metrics.isEmpty) (parts [
    "### ", .hole (fun (_, category, _) => titled (label category)), "\n",
    "\n",
    "| Target | Optimization | Metric | Baseline | Optimized | Improvement |\n",
    "| --- | --- | --- | --- | --- | --- |\n",
    .each (fun (_, _, metrics) => metrics) (parts [
      "| \x60", .hole (·.2.targetId), "\x60 | ", .hole (·.2.optimizationId), " | ", .hole (·.2.metric), " | ",
      .hole (fun (_, metric) => Decimal.generalText 6 metric.baseline), " | ",
      .hole (fun (_, metric) => Decimal.generalText 6 metric.optimized), " | ",
      .hole (fun (_, metric) => Decimal.fixedText 2 metric.improvement), "% |\n"]),
    "\n"]),
  "Best performing: ",
  .hole (fun c => (c.optimization.summary.bestPerforming.filter (!·.isEmpty)).getD "n/a"),
  ". Smallest bundle: ",
  .hole (fun c => (c.optimization.summary.mostOptimized.filter (!·.isEmpty)).getD "n/a"), ".\n",
  "\n"]

def validation : Template EvidenceReport := parts [
  "## Validation\n",
  "\n",
  "| Axis | Passed | Failed | Success rate |\n",
  "| --- | --- | --- | --- |\n",
  .each (·.validation) (parts [
    "| ", .hole (·.2.axis), " | ", .hole (·.2.passed.repr), " | ", .hole (·.2.failed.repr), " | ",
    .hole (percent ·.2.successRate), "% |\n"]),
  .each (fun c => c.validation.filter fun item => !item.criticalIssues.isEmpty) (parts [
    "\n",
    "**", .hole (·.2.axis), "**\n",
    .each (·.2.criticalIssues) (parts ["- ", .hole (·.2), "\n"])]),
  "\n"]

def closing : Template EvidenceReport := parts [
  "## Conclusions\n",
  "\n",
  .each (·.conclusions) (parts ["- ", .hole (·.2), "\n"]),
  .only (!·.recommendations.isEmpty) (parts ["\n",
    "## Recommendations\n",
    "\n",
    .each (·.recommendations) (parts ["- ", .hole (·.2), "\n"])])]

def report : Template EvidenceReport :=
  parts [overview, targets, consistency, optimization, validation, closing]

end Template.Report

/-- The numbers of the table of targets have to fit. -/
def EvidenceReport.tableFits (report : EvidenceReport) : Except NumberFault Unit :=
  report.targets.forM fun target => do
    let _ ← (Template.Report.score "accuracy" target).toFloat
    let _ ← (Template.Report.score "traceability" target).toFloat

/-- The report as Markdown, without blanks at either end and with one line end. -/
def EvidenceReport.markdown (report : EvidenceReport) : Except NumberFault String := do
  report.tableFits
  return Text.strip (Template.Report.report.render report) ++ "\n"

end Prism
