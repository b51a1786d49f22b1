import Prism.Result

namespace Prism

/-- The outcome of an axis with its confidence. It passes when no detail failed. -/
def AxisOutcome.judge (axis : String) (details : List ValidationDetail)
    (checked satisfied : Number) (empty : String) (confidence : Number) : AxisOutcome :=
  let failures := details.filter fun detail => !detail.passed
  let evidence :=
    if checked.isZero then empty
    else if failures.isEmpty then satisfied.text ++ " of " ++ checked.text ++ " checks passed"
    else failures.length.repr ++ " problem(s): " ++
      String.intercalate "; " ((failures.take 3).map (·.message))
  { axis, passed := failures.isEmpty, confidence, evidence, details }

/-- The outcome of an axis from counts of any size. Its confidence is the satisfied part of what was
checked, scaled by the weight of the checks; where nothing was to be checked it is full. -/
def AxisOutcome.ofDetails (axis : String) (details : List ValidationDetail)
    (checked satisfied : Number) (empty : String) (weight : Number) :
    Except NumberFault AxisOutcome := do
  let confidence ←
    if checked.isZero then pure (.float 1.0)
    else (·.round 4) <$> (← weight.times satisfied).dividedBy checked
  return AxisOutcome.judge axis details checked satisfied empty confidence

namespace ValidationDetail

def success (subject message : String) : ValidationDetail := ⟨subject, message, true, "info"⟩

def warning (subject message : String) : ValidationDetail := ⟨subject, message, false, "warning"⟩

def critical (subject message : String) : ValidationDetail := ⟨subject, message, false, "critical"⟩

end ValidationDetail

/-- What the checks of an axis found: how many subjects they looked at, how many of these are in order, and what they
tell of each. -/
structure Findings where
  checked : Nat
  satisfied : Nat
  details : List ValidationDetail
  /-- What is told where there was nothing to look at. -/
  empty : String
  /-- How much the checks count. -/
  weight : Float := 1.0

def Findings.outcome (findings : Findings) (axis : String) : AxisOutcome :=
  let confidence :=
    if findings.checked = 0 then 1.0
    else Decimal.roundTo 4
      (findings.weight * Float.ofNat findings.satisfied / Float.ofNat findings.checked)
  AxisOutcome.judge axis findings.details (.int findings.checked) (.int findings.satisfied)
    findings.empty (.float confidence)

end Prism
