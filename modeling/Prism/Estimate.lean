import Prism.Bundle

namespace Prism

inductive Metric where
  | compilationTime | outputSize | executionSpeed | memoryUsage | startupTime
  deriving DecidableEq, Repr

instance : Labelled Metric where
  all := [.compilationTime, .outputSize, .executionSpeed, .memoryUsage, .startupTime]
  label
    | .compilationTime => "compilation_time"
    | .outputSize => "output_size"
    | .executionSpeed => "execution_speed"
    | .memoryUsage => "memory_usage"
    | .startupTime => "startup_time"

def Performance.get (performance : Performance) : Metric → Number
  | .compilationTime => performance.compilationTime
  | .outputSize => performance.outputSize
  | .executionSpeed => performance.executionSpeed
  | .memoryUsage => performance.memoryUsage
  | .startupTime => performance.startupTime

/-- The measure that optimizations of a category make smaller. -/
def OptimizationCategory.metric : OptimizationCategory → Metric
  | .performance | .battery => .startupTime
  | .memory => .memoryUsage
  | .size => .outputSize

/-- The part of a measure that is left after all optimizations that act on it. -/
def retainedFraction (optimizations : List Optimization) (metric : Metric) : Float :=
  (optimizations.filter (·.category.metric = metric)).foldl
    (fun fraction optimization => fraction * (1.0 - optimization.impact.factor)) 1.0

/-- The time that each file adds to the compilation, in milliseconds. -/
def compileTimePerFile : Nat := 10

/-- What optimizations leave of a measure and of what a bundle adds to it. The measure is what may be too large. -/
def retainedMeasure (optimizations : List Optimization) (metric : Metric) (measure grown : Number) :
    Except NumberFault Number :=
  if measure.fits then .ok ((Number.float (grown.nearest * retainedFraction optimizations metric)).round 2)
  else .error .tooLarge

def Target.estimate (target : Target) (files : Nat) (totalBytes : Nat) :
    Except NumberFault Performance := do
  let baseline := target.baseline
  let retained := retainedMeasure target.optimizations
  return {
    compilationTime := (baseline.compilationTime + .int (compileTimePerFile * files : Nat)).round 2
    outputSize := ← retained .outputSize baseline.outputSize (baseline.outputSize + .int totalBytes)
    executionSpeed := baseline.executionSpeed
    memoryUsage := ← retained .memoryUsage baseline.memoryUsage baseline.memoryUsage
    startupTime := ← retained .startupTime baseline.startupTime baseline.startupTime }

end Prism
