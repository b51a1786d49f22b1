import Prism.Validation.Axes

namespace Prism

structure CheckError where
  kind : String
  message : String
  deriving DecidableEq, Repr

/-- A check of results by its name: that of an axis, or any other. Its confidence is a floating-point number, so
confidences can be averaged. -/
structure Check where
  name : String
  run : Inspection → Except CheckError AxisOutcome
  confident : ∀ inspection outcome, run inspection = .ok outcome → ∃ value, outcome.confidence = .float value

namespace Check

def faulted (check : Check) (targetId : String) (error : CheckError) : AxisOutcome where
  axis := check.name
  passed := false
  confidence := .float 0.0
  evidence := "validator raised " ++ error.kind ++ ": " ++ error.message
  details := [.critical targetId error.message]

/-- The outcome of a check, whether it breaks down or not. -/
def settle (check : Check) (inspection : Inspection) : AxisOutcome :=
  match check.run inspection with
  | .ok outcome => outcome
  | .error error => check.faulted inspection.target.id error

end Check

def Axis.check (room : Room) (axis : Axis) : Check where
  name := label axis
  run inspection := (inspection.check room axis).mapError fun fault => ⟨fault.kind, fault.message⟩
  confident inspection outcome found := by
    rw [Inspection.check] at found
    cases findings : inspection.findings room axis with
    | error fault =>
      rw [findings] at found
      exact nomatch found
    | ok given =>
      rw [findings] at found
      exact ⟨_, congrArg AxisOutcome.confidence (Except.ok.inj found).symm⟩

/-- The chosen axes, how far performance may lie from the baseline, and the room for reading documents. -/
structure Validator where
  axes : List Axis := Axis.all
  tolerance : Number := .float 0.5
  room : Room := {}

namespace Validator

inductive Refusal where
  | negativeTolerance
  deriving DecidableEq, Repr

def Refusal.message : Refusal → String
  | .negativeTolerance => "performance_tolerance must be non-negative"

/-- A validator for axes and a tolerance that is not negative. -/
def make (axes : List Axis) (tolerance : Number) : Except Refusal Validator :=
  if tolerance.lt 0 then .error .negativeTolerance else .ok { axes, tolerance }

/-- The axes whose check fails on a result. -/
def faults (validator : Validator) (spec : Specification) (target : Target)
    (result : GenerationResult) : List (Axis × CheckFault) :=
  let inspection : Inspection := { spec, target, result, tolerance := validator.tolerance }
  validator.axes.filterMap fun axis => match inspection.check validator.room axis with
    | .ok _ => none
    | .error fault => some (axis, fault)

/-- Validates a result by checks, with one outcome for each. -/
def judge (checks : List Check) (tolerance : Number) (spec : Specification) (target : Target)
    (result : GenerationResult) : ValidationOutcome :=
  if !result.success then ValidationOutcome.failed result (checks.map (·.name))
  else { axes := checks.map (·.settle { spec, target, result, tolerance }) }

/-- Validates a result for the specification and the target it was made for. -/
def validate (validator : Validator) (spec : Specification) (target : Target)
    (result : GenerationResult) : ValidationOutcome :=
  judge (validator.axes.map (Axis.check validator.room)) validator.tolerance spec target result

end Validator

end Prism
