import Prism.Record.Result
import Prism.Run.Rehearsal

namespace Prism

def GenerationResult.digest (result : GenerationResult) : Json := .object [
  ("target", .text result.targetId),
  ("success", .bool result.success),
  ("attempts", .ofNat result.attempts),
  ("files", .ofNat result.output.files.length),
  ("bytes", .ofNat result.output.totalBytes),
  ("performance", result.performance.toJson),
  ("error", Json.ofOption GenerationError.toJson result.error),
  ("validation", Json.ofOption ValidationOutcome.toJson result.validation)]

/-- The grave records of a run, by target, with those about no target under an empty name. -/
def RunRecord.notices (run : RunRecord) : Json :=
  let shown := run.records.filter fun record =>
    record.logger = "orchestrator" && LogLevel.info.rank ≤ record.level.rank
  .object ((shown.map (·.target)).eraseDups.map fun target =>
    (target, .texts ((shown.filter (·.target = target)).map fun record =>
      label record.level ++ " " ++ record.message)))

def RunRecord.toJson (run : RunRecord) (markdown : Option String) : Json :=
  let outcome := run.outcome
  .object [
    ("state", .text (label outcome.state)),
    ("transitions", .texts (outcome.transitions.map label)),
    ("exit_code", .ofNat outcome.exitCode),
    ("complete", .bool outcome.complete),
    ("missing", .texts outcome.missing),
    ("interruption", Json.ofOption (fun kind => .text (label kind)) outcome.interruption),
    ("error", Json.ofOption GenerationError.toJson outcome.error),
    ("results", .list (outcome.results.map GenerationResult.digest)),
    ("report", Json.ofOption EvidenceReport.toJson outcome.report),
    ("markdown", Json.ofOption .text markdown),
    ("sleeps", .object (run.pauses.map fun (target, pauses) =>
      (target, .list (pauses.map Json.ofNumber)))),
    ("logs", run.notices)]

def Config.toJson (config : Config) : Json :=
  let place : Option Location → Json := Json.ofOption fun location => .text location.text
  let seconds : Option Number → Json := Json.ofOption .ofNumber
  let compiler := config.compiler
  .object [
    ("root", .text config.root.text),
    ("compiler", .object [
      ("targets", .texts compiler.targets),
      ("max_workers", Json.ofOption .int compiler.maxWorkers),
      ("max_retries", .int compiler.maxRetries),
      ("retry_backoff", .ofNumber compiler.retryBackoff),
      ("target_timeout", seconds compiler.targetTimeout),
      ("run_timeout", seconds compiler.runTimeout),
      ("cancel_grace", .ofNumber compiler.cancelGrace)]),
    ("validation", .object [
      ("axes", .texts config.validation.axes),
      ("performance_tolerance", .ofNumber config.validation.tolerance)]),
    ("output", .object [
      ("directory", place config.output.directory),
      ("report", place config.output.report),
      ("format", .text config.output.format)]),
    ("templates_dir", place config.templates)]

end Prism
