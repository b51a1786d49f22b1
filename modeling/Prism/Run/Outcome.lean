import Prism.Config
import Prism.Failure
import Prism.Report.Build
import Prism.Run.Phase
import Prism.Spec.File

namespace Prism

def GenerationError.ofDocument (fault : DocumentFault) : GenerationError where
  kind := match fault with
    | .unsupportedVersion _ => .schemaVersionUnsupported
    | .rootNotMapping | .malformed _ | .stopped _ => .specInvalid
  message := fault.message
  problems := fault.problems

def GenerationError.ofFile : SpecFileFault → GenerationError
  | .document fault => .ofDocument fault
  | fault => { kind := .specInvalid, message := fault.message }

inductive RunState where
  | pending | generating | validating | analyzing | done | failed
  deriving DecidableEq, Repr, Inhabited

instance : Labelled RunState where
  all := [.pending, .generating, .validating, .analyzing, .done, .failed]
  label
    | .pending => "pending"
    | .generating => "generating"
    | .validating => "validating"
    | .analyzing => "analyzing"
    | .done => "done"
    | .failed => "failed"

/-- The end of a run. One that is done has a report, one that failed has an error. -/
structure RunOutcome where
  state : RunState
  results : List GenerationResult := []
  report : Option EvidenceReport := none
  missing : List String := []
  interruption : Option ErrorKind := none
  error : Option GenerationError := none
  transitions : List RunState := []
  deriving Inhabited

namespace RunOutcome

/-- Whether there is a report with no target missing. -/
def complete (outcome : RunOutcome) : Bool := outcome.report.any (·.complete)

/-- The status of the process: zero when all went well, one when targets failed or are missing, two
when nothing was done. -/
def exitCode (outcome : RunOutcome) : Nat :=
  if outcome.state ≠ .done || outcome.report.isNone then 2
  else if outcome.complete && outcome.results.all (·.success) then 0
  else 1

def failed (error : GenerationError) : RunOutcome where
  state := .failed
  error := some error
  transitions := [.pending, .failed]

end RunOutcome

namespace Run

/-- What generation leaves for one target: nothing, or a result. -/
abbrev Slot := Option GenerationResult

/-- A time of zero is no limit. -/
def limit? (seconds : Option Number) : Option Number := seconds.filter fun time => !time.isZero

/-- A target whose task starts when the run is being stopped gets no result. -/
def generationRules (settings : CompilerSettings) (clock : Number) : Rules Slot where
  deadline := (limit? settings.runTimeout).map (clock + ·)
  budget := limit? settings.targetTimeout
  skipped := some none

def generationStart (targets : List Target) (clock : Number) (cancelled : Bool) : Phase Slot where
  clock
  cancelled
  tasks := targets.map fun _ => .waiting

def generatedSlot (spec : Specification) (budget : Float) (target : Target) :
    Option (Settlement Slot) → Slot
  | some (.collected slot) => slot
  | some .expired =>
    some (GenerationResult.failed spec target (GenerationError.timeout target budget) "" 1)
  | none => none

def budget (settings : CompilerSettings) : Float := (settings.targetTimeout.getD 0).nearest

def generatedSlots (spec : Specification) (settings : CompilerSettings) (targets : List Target)
    (settlements : List (Nat × Settlement Slot)) : List Slot :=
  targets.zipIdx.map fun (target, index) =>
    generatedSlot spec (budget settings) target (settlements.lookup index)

/-- After an interruption of generation a last time is granted, and the signal to stop, which was
heeded then, counts no more. -/
def validationRules {α : Type} (settings : CompilerSettings) (deadline : Option Number)
    (generation : Phase Slot) : Rules α where
  deadline :=
    if generation.halt.isSome then some (generation.clock + settings.cancelGrace) else deadline
  budget := limit? settings.targetTimeout
  cancellable := generation.halt.isNone

/-- One task for each slot that is filled. -/
def validationStart {α : Type} (generation : Phase Slot) (slots : List Slot) : Phase α where
  clock := generation.clock
  cancelled := generation.cancelled
  tasks := slots.map fun slot => if slot.isSome then .waiting else .absent

def overdue (budget : Float) (target : Target) (result : GenerationResult) : GenerationResult :=
  let failed :=
    { result with success := false, error := some (GenerationError.timeout target budget) }
  { failed with validation := some (ValidationOutcome.failed failed Axis.names) }

/-- The slot of a target after validation. A result without validation is dropped. -/
def validatedSlot (budget : Float) (target : Target) (slot : Slot)
    (settlement : Option (Settlement ValidationOutcome)) : Slot :=
  slot.bind fun result => match settlement with
    | some (.collected outcome) => some { result with validation := some outcome }
    | some .expired => some (overdue budget target result)
    | none => if result.validation.isSome then some result else none

def validatedSlots (settings : CompilerSettings) (targets : List Target) (slots : List Slot)
    (settlements : List (Nat × Settlement ValidationOutcome)) : List Slot :=
  (targets.zip slots).zipIdx.map fun ((target, slot), index) =>
    validatedSlot (budget settings) target slot (settlements.lookup index)

def results (slots : List Slot) : List GenerationResult := slots.filterMap id

def missing (targets : List Target) (slots : List Slot) : List String :=
  ((targets.zip slots).filter fun (_, slot) => slot.isNone).map fun (target, _) => target.id

def conclude (registry : Registry) (spec : Specification) (targets : List Target)
    (slots : List Slot) (interruption : Option ErrorKind) : Except OptimizationFault RunOutcome := do
  let results := results slots
  let missing := missing targets slots
  let consistency ← (ConsistencyReport.analyze results).mapError .number
  let optimization ← OptimizationReport.analyze registry results
  let report := EvidenceReport.build spec results consistency optimization
    (ValidationSummary.all results) missing none
  return {
    state := .done
    results
    report := some report
    missing
    interruption
    transitions := [.pending, .generating, .validating, .analyzing, .done] }

end Run

end Prism
