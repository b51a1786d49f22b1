import Prism.Generate
import Prism.Log

namespace Prism

inductive Attempt where
  | produced (result : GenerationResult)
  | transient (message : String)
  | failed (kind : ErrorKind) (message : String)
  deriving Inhabited

/-- A failure of the template source may pass; what a template refers to is no such failure. -/
def Attempt.ofGeneration : Except GenerationFault GenerationResult → Attempt
  | .ok result => .produced result
  | .error (.template fault) =>
    if fault.isTransient then .transient fault.message else .failed .generationError fault.message
  | .error (.number fault) => .failed .generationError fault.message

/-- All attempts for one target: the pauses between them, what each one tells, and the result that counts
them. -/
structure Trial where
  pauses : List Number
  notes : List (List (LogLevel × String))
  result : GenerationResult
  deriving Inhabited

namespace Trial

def calls (trial : Trial) : Nat := trial.result.attempts

/-- The pause after an attempt, counted from one. -/
def pause (backoff : Number) (attempt : Nat) : Except NumberFault Number :=
  backoff.times (.int (Nat.pow 2 (attempt - 1) : Nat))

/-- What is told of a pause; nothing, if there is no text for its length. -/
def retryNotes (seconds : Number) (attempt : Nat) (message : String) : List (LogLevel × String) :=
  match seconds.fixedText 2 with
  | .ok length => [(.info, "Retrying in " ++ length ++ "s after transient failure (attempt " ++
      attempt.repr ++ "): " ++ message)]
  | .error _ => []

/-- Attempts from one number on, with so many retries left. `halted` tells whether the run is being
stopped when an attempt ends. After very many attempts a floating-point pause is beyond all numbers. -/
def run (spec : Specification) (target : Target) (backoff : Number) (call : Nat → Attempt)
    (halted : Nat → Bool) : (left : Nat) → (attempt : Nat) → Except NumberFault Trial
  | left, attempt =>
    let failure (kind : ErrorKind) (message note : String) : Trial :=
      { pauses := []
        notes := [[(.warning, note)]]
        result := GenerationResult.failed spec target { kind, message } "" attempt }
    match call attempt with
    | .produced result =>
      .ok {
        pauses := []
        notes := match result.success, result.error with
          | false, some error => [[(.warning, "Generation failed: " ++ error.message)]]
          | _, _ => []
        result := { result with attempts := attempt } }
    | .failed kind message => .ok (failure kind message ("Generation failed: " ++ message))
    | .transient message =>
      let giveUp := failure .transientFailure message
        ("Giving up after " ++ attempt.repr ++ " attempt(s): " ++ message)
      match left with
      | 0 => .ok giveUp
      | left + 1 =>
        if halted attempt then .ok giveUp
        else do
          let seconds ← pause backoff attempt
          let later ← run spec target backoff call halted left (attempt + 1)
          return { later with
            pauses := seconds :: later.pauses
            notes := retryNotes seconds attempt message :: later.notes }

end Trial

end Prism
