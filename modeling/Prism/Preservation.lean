import Prism.Contract.Compare
import Prism.Result

namespace Prism

/-- An artifact is traced when its content tells its source. -/
def Artifact.isTraced (artifact : Artifact) : Bool :=
  Text.within (traceMarker artifact.source) artifact.content

namespace Preservation

def note (part whole : Nat) (rest : String) : List String :=
  [part.repr ++ " of " ++ whole.repr ++ " " ++ rest]

/-- The four scores. Where nothing is declared nothing can vary, but nothing is covered either. -/
def score (comparison : Comparison) (artifacts : List Artifact) : Preservation :=
  let elements := total (comparison.tallies.map (·.elements))
  let varied := total (comparison.tallies.map (·.varied))
  let matched := total (comparison.tallies.map (·.matched))
  let covered := total (comparison.tallies.map (·.covered))
  let subjects := total (comparison.tallies.map (·.total))
  let traced := artifacts.countP (·.isTraced)
  { consistency := ⟨.float (if elements = 0 then 1.0 else 1.0 - fraction varied elements),
      note varied elements "declared elements varied"⟩
    completeness := ⟨.float (fraction covered subjects),
      note covered subjects "declared contracts produced an artifact"⟩
    accuracy := ⟨.float (fraction matched elements),
      note matched elements "elements match in type and requiredness"⟩
    traceability := ⟨.float (fraction traced artifacts.length),
      note traced artifacts.length "artifacts carry a trace marker"⟩
    dimensionAccuracy := comparison.tallies.map fun tally =>
      (tally.dimension, .float (fraction tally.matched tally.elements)) }

end Preservation

end Prism
