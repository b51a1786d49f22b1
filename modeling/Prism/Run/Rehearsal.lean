import Prism.Run.Outcome
import Prism.Run.Retry
import Prism.Validation.Validator

namespace Prism.Run

/-- What a task waits for while it is at work: that the run is interrupted, that its own time is
over, or that the run ends without it. -/
inductive Wait where
  | interruption | timeout | ending
  deriving DecidableEq, Repr, Inhabited

/-- What happens when a task is called, and how the call then fails, if it does. -/
structure Disturbance (ε : Type) where
  cancel : Bool := false
  advance : Option Number := none
  wait : Option Wait := none
  failure : Option ε := none
  deriving Inhabited

/-- The disturbances of each target, call by call. -/
structure Script (ε : Type) where
  cancelled : Bool := false
  generate : String → List (Disturbance Attempt) := fun _ => []
  validate : String → List (Disturbance ε) := fun _ => []

def Disturbance.events {α ε : Type} (index : Nat) (disturbance : Disturbance ε) : List (Event α) :=
  (if disturbance.cancel then [.cancel] else []) ++
  (disturbance.advance.toList.map .advance) ++
  match disturbance.wait with
  | none => []
  | some .interruption => [.check]
  | some .timeout => [.check, .expire index]
  | some .ending => [.check, .release]

def noted (level : LogLevel) (message : String) (target : String := "") : LogRecord :=
  { level, logger := "orchestrator", target, message }

/-- A phase as it is played: its rules, its targets, and what is told of a task that expires. -/
structure Setting (α : Type) where
  rules : Rules α
  targets : List Target
  expiry : String

structure Stage (α : Type) where
  phase : Phase α
  records : List LogRecord := []

namespace Stage

variable {α ε : Type}

def tell (stage : Stage α) (records : List LogRecord) : Stage α :=
  { stage with records := stage.records ++ records }

/-- What is told when a phase is interrupted or a task expires. -/
def told (setting : Setting α) (before after : Phase α) : List LogRecord :=
  (match before.halt, after.halt with
    | none, some kind =>
      [noted .warning ("Run interrupted (" ++ label kind ++ "); waiting for in-flight tasks")]
    | _, _ => []) ++
  (after.settlements.drop before.settlements.length).filterMap fun (index, settlement) =>
    match settlement, setting.targets[index]? with
    | .expired, some target =>
      let seconds := Decimal.generalText 6 (setting.rules.budget.getD 0).nearest
      some (noted .warning (setting.expiry ++ seconds ++ "s") target.id)
    | _, _ => none

def step (setting : Setting α) (stage : Stage α) (event : Event α) : Stage α :=
  let phase := stage.phase.step setting.rules event
  { phase, records := stage.records ++ told setting stage.phase phase }

def replay (setting : Setting α) (stage : Stage α) (events : List (Event α)) : Stage α :=
  events.foldl (step setting) stage

/-- The phase after the first disturbances of a task. -/
def disturbed (setting : Setting α) (index : Nat) (steps : List (Disturbance ε)) (calls : Nat)
    (stage : Stage α) : Stage α :=
  stage.replay setting ((steps.take calls).flatMap (·.events index))

end Stage

/-- The number of calls, out of so many, that end before the run does. -/
def callsTold {ε : Type} (steps : List (Disturbance ε)) (calls : Nat) : Nat :=
  ((steps.take calls).findIdx? (·.wait = some .ending)).getD calls

end Run

structure Compiler where
  registry : Registry := Registry.builtin
  source : TemplateSource := TemplateSource.builtin
  validator : Validator := {}
  settings : CompilerSettings := {}
  room : Room := {}

/-- A run with the pauses of each target and the records it left. -/
structure RunRecord where
  outcome : RunOutcome
  pauses : List (String × List Number) := []
  records : List LogRecord := []
  deriving Inhabited

/-- What keeps a run from having an outcome: a failure of validation, an unknown target, a number that is too
large, or an obstacle in the specification. -/
inductive RunFault (ε : Type) where
  | validation (failure : ε)
  | registry (error : RegistryError)
  | number (fault : NumberFault)
  | stopped (obstacle : Obstacle)

/-- What keeps the run for a file from having an outcome: the file cannot be read and is not refused, or the run has
none. -/
inductive FileRunFault (ε : Type) where
  | specification (fault : SpecFileFault)
  | run (fault : RunFault ε)

def RunFault.ofOptimization {ε : Type} : OptimizationFault → RunFault ε
  | .registry error => .registry error
  | .number fault => .number fault

namespace Compiler

open Run

variable {ε : Type}

def generatorRecords (target : Target) :
    Except GenerationFault GenerationResult → List LogRecord
  | .error _ => []
  | .ok result =>
    let message := match result.error with
      | some error => "Specification invalid for " ++ target.id ++ ": " ++
          String.intercalate "; " error.problems
      | none => "Generated " ++ result.output.files.length.repr ++ " artifact(s) for " ++
          target.id ++ " (" ++ result.variations.length.repr ++ " variation(s))"
    [{ level := .debug, logger := "generator", message }]

/-- Generation under way: the phase, and the pauses of the targets so far. -/
structure Generation where
  stage : Stage Slot
  pauses : List (String × List Number) := []

/-- The task of one target: attempts until one counts, each after its disturbance. -/
def attempt (compiler : Compiler) (spec : Specification) (setting : Setting Slot)
    (steps : List (Disturbance Attempt)) (index : Nat) (target : Target) (begun : Stage Slot) :
    Except NumberFault Generation := do
  let work := Generator.generate compiler.source spec target
  let failure (number : Nat) : Option Attempt := steps[number - 1]?.bind (·.failure)
  let trial ← Trial.run spec target compiler.settings.retryBackoff
    (fun number => (failure number).getD (Attempt.ofGeneration work))
    (fun number => (begun.disturbed setting index steps number).phase.isStopping)
    compiler.settings.maxRetries.toNat 1
  let told := callsTold steps trial.calls
  let played := (List.range trial.calls).foldl (fun stage call =>
    let stage := stage.replay setting ((steps[call]?.toList).flatMap (·.events index))
    if call < told then
      let own := if (failure (call + 1)).isNone then generatorRecords target work else []
      stage.tell (own ++ (trial.notes[call]?.getD []).map fun (level, message) =>
        noted level message target.id)
    else stage) begun
  return {
    stage := played.replay setting [.finish index (some trial.result), .gather, .check]
    pauses := if (trial.pauses.take told).isEmpty then []
      else [(target.id, trial.pauses.take told)] }

/-- The next target, when its task may start. -/
def generateNext (compiler : Compiler) (spec : Specification) (setting : Setting Slot)
    (script : Script ε) (generation : Generation) (place : Target × Nat) :
    Except NumberFault Generation := do
  let (target, index) := place
  let begun := generation.stage.step setting (.start index)
  match begun.phase.tasks[index]? with
  | some (.running _) =>
    let next ← compiler.attempt spec setting (script.generate target.id) index target begun
    return { next with pauses := generation.pauses ++ next.pauses }
  | some (.done _) =>
    let skipped := begun.tell [noted .debug "Skipped: run stopped before it started" target.id]
    return { generation with stage := skipped.replay setting [.gather, .check] }
  | _ => return { generation with stage := begun }

def generateAll (compiler : Compiler) (spec : Specification) (targets : List Target)
    (script : Script ε) : Except NumberFault Generation := do
  let setting : Setting Slot :=
    { rules := generationRules compiler.settings 0, targets, expiry := "Timed out after " }
  let start : Stage Slot := { phase := generationStart targets 0 script.cancelled }
  let generation ← targets.zipIdx.foldlM (compiler.generateNext spec setting script)
    { stage := start.replay setting [.check] }
  return { generation with stage := generation.stage.replay setting [.release] }

def validatorRecords (compiler : Compiler) (spec : Specification) (target : Target)
    (result : GenerationResult) (outcome : ValidationOutcome) : List LogRecord :=
  if !result.success then []
  else
    ((compiler.validator.faults spec target result).map fun (axis, fault) =>
      { level := .warning
        logger := "validator"
        message := "Validator " ++ label axis ++ " failed on " ++ target.id ++ ": " ++
          fault.message }) ++
    [{ level := .debug
       logger := "validator"
       message := "Validated " ++ target.id ++ ": " ++ (if outcome.passed then "passed" else "failed") ++
         " (confidence " ++ Decimal.fixedText 2 (outcome.confidence.toOption.getD 0.0) ++ ")" }]

/-- The next target, when it has a result to validate. -/
def validateNext (compiler : Compiler) (spec : Specification)
    (setting : Setting (Except ε ValidationOutcome)) (script : Script ε)
    (stage : Stage (Except ε ValidationOutcome)) (place : (Target × Slot) × Nat) :
    Stage (Except ε ValidationOutcome) :=
  let ((target, slot), index) := place
  let begun := stage.step setting (.start index)
  match slot, begun.phase.tasks[index]? with
  | some result, some (.running _) =>
    let steps := (script.validate target.id).take 1
    let reached := begun.disturbed setting index steps 1
    let outcome := compiler.validator.validate spec target result
    let failure := steps.head?.bind (·.failure)
    let told := if failure.isNone && callsTold steps 1 = 1 then
      reached.tell (compiler.validatorRecords spec target result outcome) else reached
    let value := match failure with
      | some failure => .error failure
      | none => .ok outcome
    told.replay setting [.finish index value, .gather, .check]
  | _, _ => begun

def validateAll (compiler : Compiler) (spec : Specification) (targets : List Target)
    (script : Script ε) (generation : Phase Slot) (slots : List Slot) :
    Stage (Except ε ValidationOutcome) :=
  let deadline := (generationRules compiler.settings 0).deadline
  let setting : Setting (Except ε ValidationOutcome) :=
    { rules := validationRules compiler.settings deadline generation
      targets
      expiry := "Validation timed out after " }
  let start : Stage (Except ε ValidationOutcome) := { phase := validationStart generation slots }
  let stage := (targets.zip slots).zipIdx.foldl (compiler.validateNext spec setting script)
    (start.replay setting [.check])
  stage.replay setting [.release]

/-- The settlements of validation, unless one that was collected is a failure. -/
def settled : List (Nat × Settlement (Except ε ValidationOutcome)) →
    Except ε (List (Nat × Settlement ValidationOutcome))
  | [] => .ok []
  | (index, .expired) :: rest => (settled rest).map ((index, .expired) :: ·)
  | (_, .collected (.error failure)) :: _ => .error failure
  | (index, .collected (.ok outcome)) :: rest =>
    (settled rest).map ((index, .collected outcome) :: ·)

def transitionRecord (before after : RunState) : LogRecord :=
  noted .debug ("Run state " ++ label before ++ " -> " ++ label after)

def droppedRecords (targets : List Target) (before after : List Slot) : List LogRecord :=
  (targets.zip (before.zip after)).filterMap fun (target, was, now) =>
    if was.isSome && now.isNone then some (noted .debug "Dropping unvalidated result" target.id)
    else none

def reportRecords (outcome : RunOutcome) : List LogRecord :=
  match outcome.report with
  | none => []
  | some report =>
    let summary := report.optimization.summary
    let name (id : Option String) : String := id.getD "None"
    [{ level := .debug
       logger := "analysis.consistency"
       message := "Consistency across " ++ outcome.results.length.repr ++ " result(s): " ++
         Decimal.fixedText 2 report.consistency.overall },
     { level := .debug
       logger := "analysis.optimization"
       message := "Optimization summary: overall " ++
         Decimal.fixedText 2 summary.overallImprovement ++ "%, best " ++
         name summary.bestPerforming ++ ", smallest " ++ name summary.mostOptimized }]

/-- What is told at the end: targets that failed, and targets that are missing. -/
def closingRecords (outcome : RunOutcome) : List LogRecord :=
  let failed := (outcome.results.filter fun result => !result.success).map (·.targetId)
  (if failed.isEmpty then []
    else [noted .warning ("Targets failed: " ++ String.intercalate ", " failed)]) ++
  (if outcome.missing.isEmpty then []
    else [noted .warning ("Run incomplete; no result for: " ++
      String.intercalate ", " outcome.missing)])

def refused (error : GenerationError) : RunRecord where
  outcome := RunOutcome.failed error
  records := [noted .error ("Run failed: " ++ error.message)]

/-- The time of a task that expires is told, so it has to fit. -/
def expiryTold {α : Type} (settings : CompilerSettings)
    (settlements : List (Nat × Settlement α)) : Except NumberFault Unit :=
  let expired := settlements.any fun (_, settlement) => settlement matches .expired
  if expired then (fun _ => ()) <$> (settings.targetTimeout.getD 0).toFloat else .ok ()

def rehearse (compiler : Compiler) (spec : Specification) (targets : List Target)
    (script : Script ε) : Except (RunFault ε) RunRecord := do
  let generation ← (compiler.generateAll spec targets script).mapError .number
  let phase := generation.stage.phase
  (expiryTold compiler.settings phase.settlements).mapError .number
  let slots := generatedSlots spec compiler.settings targets phase.settlements
  let validation := compiler.validateAll spec targets script phase slots
  (expiryTold compiler.settings validation.phase.settlements).mapError .number
  let settlements ← (settled validation.phase.settlements).mapError .validation
  let final := validatedSlots compiler.settings targets slots settlements
  let outcome ← (conclude compiler.registry spec targets final
    (phase.halt <|> validation.phase.halt)).mapError .ofOptimization
  return {
    outcome
    pauses := generation.pauses
    records :=
      [noted .info ("Compiling " ++ spec.metadata.name ++ " for " ++ targets.length.repr ++
          " target(s)"),
        transitionRecord .pending .generating] ++
      generation.stage.records ++ [transitionRecord .generating .validating] ++
      validation.records ++ droppedRecords targets slots final ++
      [transitionRecord .validating .analyzing] ++ reportRecords outcome ++
      [transitionRecord .analyzing .done] ++ closingRecords outcome }

/-- A run for the targets with these ids, or else those of the settings, or else all. A version that
is not supported is refused first, then an unknown target. A specification without a fingerprint has no outcome. -/
def compile (compiler : Compiler) (spec : Specification) (ids : List String) (script : Script ε) :
    Except (RunFault ε) RunRecord :=
  if !supportedVersions.contains spec.schemaVersion then
    .ok (refused (.ofDocument (.unsupportedVersion (.scalar (.text spec.schemaVersion)))))
  else do
    let wanted := if ids.isEmpty then compiler.settings.targets else ids
    let targets ← (compiler.registry.orBuiltin.select wanted).mapError .registry
    match spec.fingerprintLimit? compiler.room with
    | some limit => .error (.stopped (.limit limit))
    | none => compiler.rehearse spec targets script

/-- A run for the specification that a document holds; a document that is refused fails the run. -/
def compileDocument (compiler : Compiler) (document : Doc) (ids : List String)
    (script : Script ε) : Except (RunFault ε) RunRecord :=
  match Specification.ofDoc compiler.room document with
  | .error (.stopped obstacle) => .error (.stopped obstacle)
  | .error fault => .ok (refused (.ofDocument fault))
  | .ok spec => compiler.compile spec ids script

/-- A run for the specification in a file; a file that is refused fails the run. -/
def compileFile (compiler : Compiler) (homes : Homes) (find : Location → Stored) (path : Location)
    (ids : List String) (script : Script ε) : Except (FileRunFault ε) RunRecord :=
  match Specification.ofFile compiler.room homes find path with
  | .error fault =>
    if fault.isRefusal then .ok (refused (.ofFile fault)) else .error (.specification fault)
  | .ok spec => (compiler.compile spec ids script).mapError .run

end Compiler

end Prism
