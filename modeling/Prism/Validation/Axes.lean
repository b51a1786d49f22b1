import Prism.Check.Format
import Prism.Generate
import Prism.Validation.Axis
import Prism.Validation.Outcome

namespace Prism

/-- What the axes look at: a result with the specification and the target it was made for, and how
far its performance may lie from the baseline. -/
structure Inspection where
  spec : Specification
  target : Target
  result : GenerationResult
  tolerance : Number

namespace Inspection

/-- The emitted documents with their formats: files first, then configuration. -/
def documents (inspection : Inspection) : List (String × String × String) :=
  let output := inspection.result.output
  output.files.map (fun file => (file.path, file.language, file.content)) ++
    output.configuration.map fun file => (file.path, file.format, file.content)

/-- How much a check of brackets alone counts. -/
def heuristicWeight : Float := 0.8

def documentDetail (path : String) (verdict : Verdict) : ValidationDetail :=
  match verdict.problem with
  | none => .success path "parsed"
  | some problem => .critical path problem

/-- Every document is read as its format. -/
def form (room : Room) (inspection : Inspection) : Except CheckFault Findings := do
  let documents := inspection.documents
  let verdicts ← documents.mapM fun (path, format, content) => do
    return (path, ← checkForm room format content)
  let exact := verdicts.countP (·.2.exact)
  return {
    checked := documents.length
    satisfied := verdicts.countP (·.2.problem.isNone)
    details := verdicts.map fun (path, verdict) => documentDetail path verdict
    empty := "no files emitted"
    weight := if documents.isEmpty then 1.0
      else (Float.ofNat exact + Float.ofNat (documents.length - exact) * heuristicWeight) /
        Float.ofNat documents.length }

/-- The first emitted contract of a subject, with the content of the file that carries it. -/
def emitted? (inspection : Inspection) (dimension : Dimension) (subject : String) :
    Option (Contract × String) :=
  inspection.result.output.files.findSome? fun file =>
    (file.contracts.find? fun contract =>
      contract.dimension = dimension && contract.subject = subject).map fun contract =>
        (contract, file.content)

/-- The element of a contract whose canonical name is given, and the content that should name it. -/
def element? (found : Option (Contract × String)) (canonical : String) :
    Option (ContractElement × String) :=
  found.bind fun (contract, content) =>
    (contract.elements.find? fun element => Words.canonical element.name = canonical).map
      fun element => (element, content)

def flagName (flag : Bool) : String := if flag then "True" else "False"

/-- What differs between a field and the element emitted for it. -/
def fieldProblems (field : Field) (element : ContractElement) (content : String) : List String :=
  (if Text.within element.name content then []
    else ["'" ++ element.name ++ "' absent from model source"]) ++
  (if element.family = some field.family then []
    else ["type family " ++ ((element.family.map label).getD "unknown") ++ ", expected " ++
      label field.family]) ++
  (if element.required = field.required then []
    else ["required=" ++ flagName element.required ++ ", expected " ++ flagName field.required])

def fieldDetail (entity : Entity) (found : Option (Contract × String)) (field : Field) :
    ValidationDetail :=
  let subject := entity.name ++ "." ++ field.id
  match element? found (Words.canonical field.id) with
  | none => .critical subject "field not emitted"
  | some (element, content) =>
    let problems := fieldProblems field element content
    if problems.isEmpty then .success subject ("emitted as " ++ element.nativeType)
    else .warning subject (String.intercalate "; " problems)

/-- A field is kept when an element is emitted for it that differs in nothing. -/
def isKept (found : Option (Contract × String)) (field : Field) : Bool :=
  (element? found (Words.canonical field.id)).any fun (element, content) =>
    (fieldProblems field element content).isEmpty

/-- Fields keep their type family and whether they are required. -/
def semantics (inspection : Inspection) : Findings where
  checked := total (inspection.spec.entities.map (·.fields.length))
  satisfied := total (inspection.spec.entities.map fun entity =>
    entity.fields.countP (isKept (inspection.emitted? .dataModels entity.subject)))
  details := inspection.spec.entities.flatMap fun entity =>
    entity.fields.map (fieldDetail entity (inspection.emitted? .dataModels entity.subject))
  empty := "no fields declared"

def stepDetail (flow : Flow) (found : Option (Contract × String)) (step : FlowStep) :
    ValidationDetail :=
  let subject := flow.name ++ "/" ++ step.id
  let missing := ValidationDetail.critical subject ("no handler for step '" ++ step.id ++ "'")
  match element? found step.handler with
  | none => missing
  | some (element, content) =>
    if Text.within element.name content then .success subject ("handled by " ++ element.name)
    else missing

/-- A step is handled when an element is emitted for its handler that the page names. -/
def isHandled (found : Option (Contract × String)) (step : FlowStep) : Bool :=
  (element? found step.handler).any fun (element, content) => Text.within element.name content

/-- Every step of a flow has a handler in its page. -/
def businessLogic (inspection : Inspection) : Findings where
  checked := total (inspection.spec.flows.map (·.steps.length))
  satisfied := total (inspection.spec.flows.map fun flow =>
    flow.steps.countP (isHandled (inspection.emitted? .businessLogic flow.subject)))
  details := inspection.spec.flows.flatMap fun flow =>
    flow.steps.map (stepDetail flow (inspection.emitted? .businessLogic flow.subject))
  empty := "no flow steps declared"

/-- What a needed capability lacks: a feature of the target, or a file that makes use of it. -/
def capabilityProblems (target : Target) (exercised : List String) (capability : String) : List String :=
  (if target.capabilities.contains capability then []
    else [target.id ++ " declares no feature providing '" ++ capability ++ "'"]) ++
  (if exercised.contains capability then []
    else ["no artifact exercises '" ++ capability ++ "'"])

def capabilityDetail (target : Target) (exercised : List String) (capability : String) : ValidationDetail :=
  let problems := capabilityProblems target exercised capability
  if problems.isEmpty then .success capability "declared and exercised"
  else .critical capability (String.intercalate "; " problems)

/-- Needed capabilities are declared by the target and exercised by its files. -/
def platformCompliance (inspection : Inspection) : Findings :=
  let needed := inspection.spec.requiredCapabilities
  let exercised := inspection.result.output.files.flatMap (·.capabilities)
  { checked := needed.length
    satisfied := needed.countP fun capability =>
      (capabilityProblems inspection.target exercised capability).isEmpty
    details := needed.map (capabilityDetail inspection.target exercised)
    empty := "no capabilities required" }

def costs : List Metric := [.compilationTime, .outputSize, .memoryUsage, .startupTime]

/-- Whether a measure keeps to its bound, and what is told of it. -/
def checkMeasure (metric : Metric) (keeps : Bool) (value bound : Number) (within beyond : String) :
    Except NumberFault (Bool × ValidationDetail) := do
  let message := (← value.generalText) ++ (if keeps then within else beyond) ++ (← bound.generalText)
  return (keeps, if keeps then .success (label metric) message else .warning (label metric) message)

/-- A cost is to be at most the baseline and so much of it as is tolerated. -/
def checkCost (inspection : Inspection) (metric : Metric) : Except NumberFault (Bool × ValidationDetail) := do
  let value := inspection.result.performance.get metric
  let limit ← (inspection.target.baseline.get metric).times (← (1 : Number).plus inspection.tolerance)
  checkMeasure metric (value.le limit) value limit " within limit " " exceeds limit "

/-- The speed is to be at least what is left of the baseline. -/
def checkSpeed (inspection : Inspection) : Except NumberFault (Bool × ValidationDetail) := do
  let speed := inspection.result.performance.executionSpeed
  let floor ← inspection.target.baseline.executionSpeed.times
    (← (1 : Number).minus inspection.tolerance)
  checkMeasure .executionSpeed (floor.le speed) speed floor " above " " below "

/-- Measures stay near the baseline of the target. -/
def performance (inspection : Inspection) : Except CheckFault Findings := do
  let measured ← (costs.mapM inspection.checkCost).mapError .number
  let last ← inspection.checkSpeed.mapError .number
  return {
    checked := costs.length + 1
    satisfied := measured.countP (·.1) + if last.1 then 1 else 0
    details := measured.map (·.2) ++ [last.2]
    empty := "no metrics" }

/-- A rule is enforced where one file holds both its name and its keyword. -/
def isEnforced (contents : List String) (rule : ComplianceRule) : Bool :=
  contents.any fun content => Text.within rule.id content && Text.within rule.implementation.keyword content

def ruleDetail (contents : List String) (rule : ComplianceRule) : ValidationDetail :=
  let keyword := rule.implementation.keyword
  if isEnforced contents rule then .success rule.id ("enforced via " ++ keyword)
  else
    let message := "no artifact enforces '" ++ keyword ++ "'"
    if rule.severity = "high" || rule.severity = "critical" then .critical rule.id message
    else .warning rule.id message

/-- Every rule is enforced by some file. -/
def security (inspection : Inspection) : Findings :=
  let rules := inspection.spec.compliance.rules
  let contents := inspection.result.output.files.map (·.content)
  { checked := rules.length
    satisfied := rules.countP (isEnforced contents)
    details := rules.map (ruleDetail contents)
    empty := "no compliance rules declared" }

def findings (room : Room) (inspection : Inspection) : Axis → Except CheckFault Findings
  | .syntactic => inspection.form room
  | .semantics => .ok inspection.semantics
  | .businessLogic => .ok inspection.businessLogic
  | .platformCompliance => .ok inspection.platformCompliance
  | .performance => inspection.performance
  | .security => .ok inspection.security

def check (room : Room) (inspection : Inspection) (axis : Axis) : Except CheckFault AxisOutcome :=
  (inspection.findings room axis).map (·.outcome (label axis))

end Inspection

end Prism
