import Prism.Contract.Declared

namespace Prism

structure Tally where
  dimension : Dimension
  covered : Nat
  total : Nat
  elements : Nat
  matched : Nat
  varied : Nat
  deriving DecidableEq, Repr

structure Comparison where
  variations : List Variation
  coverage : List Coverage
  tallies : List Tally
  deriving DecidableEq, Repr

namespace Comparison

/-- The last emitted contract of a subject in a dimension. -/
def emittedFor? (emitted : List Contract) (dimension : Dimension) (subject : String) :
    Option Contract :=
  emitted.reverse.find? fun contract => contract.dimension = dimension && contract.subject = subject

/-- The emitted element for a declared one: of the same name, else the first whose canonical name
it is. -/
def counterpart? (contract : Contract) (name : String) : Option ContractElement :=
  contract.element? name <|> contract.elements.find? fun element => Words.canonical element.name = name

def flagText (flag : Bool) : String := if flag then "true" else "false"

/-- The differences between a declared element and its counterpart. A new name alone weighs
little; the rest weighs more on a required element. -/
def elementVariations (targetId : String) (dimension : Dimension) (subject : String)
    (expected : ContractElement) (contract : Contract) : List Variation :=
  let variation (description : String) (impact : Impact) (want got : String) : Variation :=
    { dimension, targetId, subject, element := expected.name, description, impact
      expected := want, actual := got }
  let weight := if expected.required then Impact.high else Impact.medium
  match counterpart? contract expected.name with
  | none => [variation "element missing from emitted contract" weight expected.name ""]
  | some actual =>
    (if actual.name = expected.name then []
      else [variation "element renamed" .low expected.name actual.name]) ++
    (match expected.family with
      | none => []
      | some family =>
        if actual.family = some family then []
        else [variation "type family differs" weight (label family)
          ((actual.family.map label).getD "")]) ++
    (if actual.required = expected.required then []
      else [variation "required flag differs" .high (flagText expected.required)
        (flagText actual.required)]) ++
    (if dimension ≠ .apiContracts || actual.nativeType = expected.nativeType then []
      else [variation "shape differs" weight expected.nativeType actual.nativeType])

/-- The differences of each element of a declared contract that is covered. -/
def contractFindings (targetId : String) (emitted : List Contract) (dimension : Dimension)
    (contract : Contract) : List (List Variation) :=
  match emittedFor? emitted dimension contract.subject with
  | none => []
  | some actual => contract.elements.map fun expected =>
    elementVariations targetId dimension contract.subject expected actual

def isCovered (emitted : List Contract) (dimension : Dimension) (contract : Contract) : Bool :=
  (emittedFor? emitted dimension contract.subject).isSome

def findings (targetId : String) (emitted : List Contract) (dimension : Dimension)
    (contracts : List Contract) : List (List Variation) :=
  contracts.flatMap (contractFindings targetId emitted dimension)

/-- The counts of one declared dimension. An element whose differences all weigh little is still
matched. -/
def tally (targetId : String) (emitted : List Contract) (dimension : Dimension)
    (contracts : List Contract) : Tally :=
  let found := findings targetId emitted dimension contracts
  { dimension
    covered := contracts.countP (isCovered emitted dimension)
    total := contracts.length
    elements := total (contracts.map (·.elements.length))
    matched := found.countP fun variations => variations.all (·.impact = .low)
    varied := found.countP fun variations => !variations.isEmpty }

/-- Compares what was declared, by dimension, with what was emitted. -/
def compare (targetId : String) (declared : Dimension → Option (List Contract))
    (emitted : List Contract) : Comparison where
  variations := Dimension.all.flatMap fun dimension =>
    ((declared dimension).map fun contracts =>
      (findings targetId emitted dimension contracts).flatten).getD []
  coverage := Dimension.all.map fun dimension => match declared dimension with
    | none => { dimension, covered := 0, total := 0, applicable := false }
    | some contracts =>
      { dimension
        covered := contracts.countP (isCovered emitted dimension)
        total := contracts.length }
  tallies := Dimension.all.filterMap fun dimension =>
    (declared dimension).map (tally targetId emitted dimension)

def accuracy (comparison : Comparison) (dimension : Dimension) : Float :=
  match comparison.tallies.find? (·.dimension = dimension) with
  | none => 0.0
  | some tally => fraction tally.matched tally.elements

end Comparison

end Prism
