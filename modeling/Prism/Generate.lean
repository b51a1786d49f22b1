import Prism.Estimate
import Prism.Failure
import Prism.Manifest
import Prism.Preservation
import Prism.Spec.Structure
import Prism.Template.Library

namespace Prism

/-- What a target has to offer to carry the specification. -/
def Specification.requiredCapabilities (spec : Specification) : List String :=
  (if spec.entities.isEmpty then [] else ["components"]) ++
    (if spec.flows.isEmpty then [] else ["routing"]) ++
    (if spec.architecture.components.isEmpty then [] else ["async"]) ++
    (if spec.compliance.rules.isEmpty then [] else ["security"])

/-- The first feature of the target for each required capability, and whether an artifact makes use
of it. -/
def Specification.mapFeatures (spec : Specification) (target : Target) (artifacts : List Artifact) :
    List MappedFeature :=
  spec.requiredCapabilities.map fun capability =>
    let feature? := target.features.find? (·.capabilities.contains capability)
    { capability
      featureId := feature?.map (·.id)
      implementation := (feature?.map (·.implementation)).getD ""
      exercised := artifacts.any (·.capabilities.contains capability) }

/-- The dimension that suffers when a kind of artifact has no template of its own. -/
def ArtifactKind.dimension (kind : ArtifactKind) (target : Target) : Dimension :=
  match kind with
  | .component => if target.hasUserInterface then .userInterface else .apiContracts
  | .model => .dataModels
  | .repository => .security
  | .page | .service => .businessLogic

/-- Why there is no result: a template is not to be had, or a measure of the target is too large. -/
inductive GenerationFault where
  | template (fault : TemplateFault)
  | number (fault : NumberFault)
  deriving DecidableEq, Repr

def GenerationFault.message : GenerationFault → String
  | .template fault => fault.message
  | .number fault => fault.message

namespace Generator

/-- The names of all templates that generation can ask for. -/
def templateNames : List String :=
  (Labelled.all : List TemplateSet).flatMap (fun set =>
    (Labelled.all : List ArtifactKind).map set.templateName) ++
  ["manifest/Info.plist.j2", "manifest/build.gradle.kts.j2", "manifest/pyproject.toml.j2",
    "manifest/pom.xml.j2", "readme.md.j2"]

/-- An artifact, and whether it was printed with the template of another framework. -/
structure Rendered where
  artifact : Artifact
  substituted : Bool
  deriving DecidableEq, Repr

def render {α : Type} [Printable α] (source : TemplateSource) (target : Target) (kind : ArtifactKind)
    (pick : ArtifactTemplates → Bundled α) (name subject : String) (context : α)
    (contracts : List Contract) : Except TemplateFault Rendered := do
  let set := target.framework.templateSet
  let resolved ← source.resolve set kind
  let content ← source.printFound (pick resolved.set.templates) context resolved.found
  return {
    artifact := {
      path := set.path kind (Convention.of target.language) name
      kind
      language := label target.language
      framework := label target.framework
      content
      source := subject
      template := resolved.set.templateName kind
      capabilities := kind.capabilities
      contracts }
    substituted := resolved.fellBack || target.framework.ownSet?.isNone }

def fieldElements (fields : List FieldView) : List ContractElement :=
  fields.map fun field =>
    { name := field.name
      family := some field.family
      required := field.required
      nativeType := field.nativeType }

def entityContext (spec : Specification) (convention : Convention) (entity : Entity) :
    EntityContext where
  trace := traceMarker entity.subject
  entity := EntityView.of spec convention entity
  fields := entity.fields.map (FieldView.of convention)
  operations := OperationView.all entity
  errors := spec.errorCodes

/-- The contracts that the component of an entity puts into code. -/
def componentContracts (target : Target) (subject : String) (context : EntityContext) :
    List Contract :=
  (if target.hasUserInterface then
    [⟨.userInterface, subject, fieldElements context.fields⟩] else []) ++
  [⟨.apiContracts, subject, context.operations.map fun view =>
      { name := view.name, required := true, nativeType := view.method ++ " " ++ view.route }⟩,
    ⟨.errorHandling, subject, context.errors.map fun code => { name := code, required := true }⟩]

def renderEntity (source : TemplateSource) (spec : Specification) (target : Target)
    (entity : Entity) : Except TemplateFault (List Rendered) := do
  let subject := entity.subject
  let context := entityContext spec (Convention.of target.language) entity
  let component ← render source target .component (·.component) entity.name subject context
    (componentContracts target subject context)
  let model ← render source target .model (·.model) entity.name subject context
    [⟨.dataModels, subject, fieldElements context.fields⟩]
  return [component, model]

def renderFlow (source : TemplateSource) (spec : Specification) (target : Target) (flow : Flow) :
    Except TemplateFault Rendered :=
  let convention := Convention.of target.language
  let steps := StepView.all spec convention flow
  render source target .page (·.page) flow.name flow.subject
    { trace := traceMarker flow.subject, flow := FlowView.of convention flow, steps }
    [⟨.businessLogic, flow.subject, steps.map fun step =>
      { name := step.handler, required := true, nativeType := step.type }⟩]

def renderComponent (source : TemplateSource) (spec : Specification) (target : Target)
    (component : Component) : Except TemplateFault Rendered :=
  render source target .service (·.service) component.name component.subject
    { trace := traceMarker component.subject, component := ComponentView.of spec component } []

def policySubject : String := "compliance:rules"

def renderPolicy (source : TemplateSource) (spec : Specification) (target : Target) :
    Except TemplateFault (List Rendered) :=
  let rules := spec.compliance.rules
  if rules.isEmpty then .ok []
  else do
    let policy ← render source target .repository (·.repository) "data access policy" policySubject
      { trace := traceMarker policySubject
        rules := rules.map (RuleView.of (Convention.of target.language)) }
      (rules.map fun rule =>
        ⟨.security, rule.subject, [{ name := rule.implementation.keyword, required := true }]⟩)
    return [policy]

/-- All artifacts in the order of the sections of the specification. -/
def renderAll (source : TemplateSource) (spec : Specification) (target : Target) :
    Except TemplateFault (List Rendered) := do
  let entities ← spec.entities.mapM (renderEntity source spec target)
  let flows ← spec.flows.mapM (renderFlow source spec target)
  let components ← spec.architecture.components.mapM (renderComponent source spec target)
  let policy ← renderPolicy source spec target
  return entities.flatten ++ flows ++ components ++ policy

/-- Tells that a kind of artifact was printed with the template of another framework. -/
def substitution (target : Target) (artifact : Artifact) : Variation where
  dimension := artifact.kind.dimension target
  targetId := target.id
  subject := "template:" ++ label artifact.kind
  element := label artifact.kind
  description := label ErrorKind.templateMissing ++ ": no " ++ label artifact.kind ++
    " template for " ++ label target.framework ++ ", rendered with " ++ artifact.template
  impact := .low
  expected := label target.framework
  actual := artifact.template

/-- One substitution for each kind of artifact, in the order of the artifacts. -/
def substitutions (target : Target) (rendered : List Rendered) : List Variation :=
  ((rendered.filter (·.substituted)).map fun item => substitution target item.artifact).eraseDups

def structuralFailure (errors : List StructuralError) : GenerationError where
  kind := .specInvalid
  message := "Specification is structurally invalid (" ++ errors.length.repr ++ " problem(s))"
  problems := errors.map (·.message)

def assemble (spec : Specification) (target : Target) (rendered : List Rendered)
    (manifest : Manifest) (readme : String) : Except NumberFault GenerationResult := do
  let artifacts := rendered.map (·.artifact)
  let bundle : OutputBundle := {
    files := artifacts
    configuration := manifest.configuration
    dependencies := manifest.dependencies
    buildScripts := manifest.buildScripts
    documentation := [⟨"README.md", readme⟩] }
  let comparison := Comparison.compare target.id (spec.declared target)
    (artifacts.flatMap (·.contracts))
  return {
    targetId := target.id
    fingerprint := spec.fingerprint
    success := true
    output := bundle
    score := Preservation.score comparison artifacts
    performance := ← target.estimate artifacts.length bundle.totalBytes
    features := spec.mapFeatures target artifacts
    coverage := comparison.coverage
    variations := substitutions target rendered ++ comparison.variations
    optimizationsApplied := target.optimizations.map (·.id) }

def generate (source : TemplateSource) (spec : Specification) (target : Target) :
    Except GenerationFault GenerationResult :=
  let errors := spec.structuralErrors
  if !errors.isEmpty then
    .ok (GenerationResult.failed spec target (structuralFailure errors) spec.fingerprint 1)
  else do
    let rendered ← (renderAll source spec target).mapError .template
    let manifest ← (Manifest.build source spec target.framework).mapError .template
    let readme ← (source.printNamed "readme.md.j2" Template.readme {
      metadata := spec.metadata
      target
      artifacts := rendered.map (·.artifact)
      dependencies := manifest.dependencies
      buildScripts := manifest.buildScripts }).mapError .template
    (assemble spec target rendered manifest readme).mapError .number

end Generator

end Prism
