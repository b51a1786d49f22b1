import Prism.Result

namespace Prism

structure ConsistencyMetric where
  dimension : Dimension
  consistency : Number
  completeness : Number
  accuracy : Number
  variations : List Variation := []
  applicableTargets : List String := []
  consistentTargets : List String := []

structure ConsistencyReport where
  metrics : List ConsistencyMetric := []
  overall : Float := 0.0

namespace ConsistencyReport

def metric? (report : ConsistencyReport) (dimension : Dimension) : Option ConsistencyMetric :=
  report.metrics.find? (·.dimension = dimension)

def ofMetrics (metrics : List ConsistencyMetric) : Except NumberFault ConsistencyReport :=
  return { metrics, overall := ← Number.mean (metrics.map (·.consistency)) }

def appliesTo (dimension : Dimension) (result : GenerationResult) : Bool :=
  (result.coverageFor? dimension).any (·.applicable)

/-- A target keeps a dimension when it succeeded and has no variation there. -/
def isConsistent (dimension : Dimension) (result : GenerationResult) : Bool :=
  result.success && (result.variationsFor dimension).isEmpty

/-- The metric of one dimension. Where it applies to no target it is consistent, and neither
complete nor accurate. -/
def measure (results : List GenerationResult) (dimension : Dimension) :
    Except NumberFault ConsistencyMetric := do
  let applicable := results.filter (appliesTo dimension)
  if applicable.isEmpty then
    return {
      dimension
      consistency := .float 1.0
      completeness := .float 0.0
      accuracy := .float 0.0 }
  else
    let consistent := applicable.filter (isConsistent dimension)
    let ratios ← (applicable.filterMap (·.coverageFor? dimension)).mapM (·.ratio)
    let completeness ← Number.mean (ratios.map .float)
    let accuracy ← Number.mean (applicable.map fun result =>
      (result.score.dimensionAccuracy.lookup dimension).getD (.float 0.0))
    return {
      dimension
      consistency := .float (fraction consistent.length applicable.length)
      completeness := .float completeness
      accuracy := .float accuracy
      variations := applicable.flatMap (·.variationsFor dimension)
      applicableTargets := applicable.map (·.targetId)
      consistentTargets := consistent.map (·.targetId) }

def analyze (results : List GenerationResult) : Except NumberFault ConsistencyReport := do
  ofMetrics (← Dimension.all.mapM (measure results))

end ConsistencyReport

end Prism
