import Prism.Estimate
import Prism.Result
import Prism.Target.Registry

namespace Prism

structure OptimizationMetric where
  targetId : String
  optimizationId : String
  category : OptimizationCategory
  metric : String
  baseline : Float
  optimized : Float
  improvement : Float
  technique : String
  impact : Impact

structure OptimizationSummary where
  overallImprovement : Float
  bestPerforming : Option String
  mostOptimized : Option String
  recommendations : List String := []

structure OptimizationReport where
  categories : List (OptimizationCategory × List OptimizationMetric)
  summary : OptimizationSummary

/-- How much less than the baseline, in percent to two places; exactly zero when nothing
changed. -/
def improvementPercent (baseline optimized : Number) : Except NumberFault Float := do
  if baseline.isZero || optimized.eq baseline then return 0.0
  else
    let part ← (← (← baseline.minus optimized).dividedBy baseline).toFloat
    let value := Decimal.roundTo 2 (part * 100.0)
    return if value == 0.0 then 0.0 else value

inductive OptimizationFault where
  | registry (error : RegistryError)
  | number (fault : NumberFault)

namespace OptimizationReport

def metrics (report : OptimizationReport) : List OptimizationMetric :=
  report.categories.flatMap (·.2)

def metricOf (target : Target) (result : GenerationResult) (optimization : Optimization) :
    Except NumberFault OptimizationMetric := do
  let metric := optimization.category.metric
  let baseline ← (target.baseline.get metric).toFloat
  let optimized ← (result.performance.get metric).toFloat
  return {
    targetId := result.targetId
    optimizationId := optimization.id
    category := optimization.category
    metric := label metric
    baseline
    optimized
    improvement := ← improvementPercent (.float baseline) (.float optimized)
    technique := optimization.technique
    impact := optimization.impact }

/-- A result with its target and the place of the target in the registry. -/
structure Placed where
  place : Nat
  target : Target
  result : GenerationResult

def placed (registry : Registry) (result : GenerationResult) : Except RegistryError Placed := do
  return {
    place := ← registry.position result.targetId
    target := ← registry.get result.targetId
    result }

/-- The mean of a list, zero for no numbers. -/
def mean (values : List Float) : Float :=
  if values.isEmpty then 0.0 else values.foldl (· + ·) 0.0 / Float.ofNat values.length

/-- The first of the largest, with its score. -/
def largest? : List (String × Float) → Option (String × Float)
  | [] => none
  | first :: rest => some (rest.foldl (fun best next => if next.2 > best.2 then next else best) first)

/-- The first of the smallest. -/
def smallest? : List (String × Nat) → Option (String × Nat)
  | [] => none
  | first :: rest => some (rest.foldl (fun best next => if next.2 < best.2 then next else best) first)

def recommendations (categories : List (OptimizationCategory × List OptimizationMetric))
    (best : Option (String × Float)) (smallest : Option (String × Nat)) : List String :=
  (categories.filterMap fun (category, metrics) =>
    if metrics.isEmpty then
      some ("No selected target applies " ++ label category ++ " optimizations")
    else none) ++
  ((categories.flatMap (·.2)).filterMap fun metric =>
    if metric.improvement < 0.0 then
      some (metric.targetId ++ ": " ++ metric.metric ++ " exceeds baseline despite " ++
        metric.optimizationId)
    else none) ++
  (match best with
    | some (id, score) =>
      if score > 0.0 then ["Prefer " ++ id ++ " where runtime performance matters most"] else []
    | none => []) ++
  (match smallest with
    | some (id, _) => ["Prefer " ++ id ++ " where bundle size matters most"]
    | none => [])

def metricsOf (item : Placed) : Except NumberFault (List OptimizationMetric) :=
  item.target.optimizations.mapM (metricOf item.target item.result)

/-- The report on metrics of results that are in the order of the registry. -/
def ofMetrics (ordered : List Placed) (all : List OptimizationMetric) : OptimizationReport :=
  let categories := (Labelled.all : List OptimizationCategory).map fun category =>
    (category, all.filter (·.category = category))
  let improvements := (categories.flatMap (·.2)).map (·.improvement)
  let successful := (ordered.map (·.result)).filter (·.success)
  let score (id : String) : Float := mean ((all.filter (·.targetId = id)).map (·.improvement))
  let best := largest? (successful.map fun result => (result.targetId, score result.targetId))
  let smallest := smallest? (successful.map fun result =>
    (result.targetId, result.output.totalBytes))
  { categories
    summary := {
      overallImprovement :=
        if improvements.isEmpty then 0.0 else Decimal.roundTo 2 (mean improvements)
      bestPerforming := best.map (·.1)
      mostOptimized := smallest.map (·.1)
      recommendations := recommendations categories best smallest } }

def analyze (registry : Registry) (results : List GenerationResult) :
    Except OptimizationFault OptimizationReport := do
  let found ← (results.mapM (placed registry.orBuiltin)).mapError .registry
  let ordered := found.mergeSort fun a b => a.place ≤ b.place
  let all ← (ordered.mapM metricsOf).mapError .number
  return ofMetrics ordered all.flatten

end OptimizationReport

end Prism
