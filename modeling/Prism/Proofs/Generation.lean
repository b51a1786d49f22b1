import Prism.Generate
import Prism.Proofs.Number
import Prism.Target.Registry

namespace Prism

/-- The template, whether it is its own or that of another set. -/
def Bundled.template {α : Type} : Bundled α → Template α
  | .own template => template
  | .included _ template => template

/-- The places of the configuration files of a framework. -/
def Framework.configurationPaths : Framework → List String
  | .iosSwift => ["Info.plist"]
  | .androidKotlin => ["app/build.gradle.kts"]
  | .python => ["pyproject.toml", "requirements.txt"]
  | .java => ["pom.xml"]
  | .angular => ["package.json", "angular.json"]
  | .nodejs => ["package.json", "tsconfig.json"]
  | .react | .vue | .svelte | .flutter | .reactNative | .electron | .go | .rust => ["package.json"]

namespace Generator

/-- An artifact printed with the bundled template of the set of its target. -/
def bundledArtifact {α : Type} (target : Target) (kind : ArtifactKind) (pick : ArtifactTemplates → Bundled α)
    (name subject : String) (context : α) (contracts : List Contract) : Artifact where
  path := target.framework.templateSet.path kind (Convention.of target.language) name
  kind
  language := label target.language
  framework := label target.framework
  content := (pick target.framework.templateSet.templates).template.render context
  source := subject
  template := target.framework.templateSet.templateName kind
  capabilities := kind.capabilities
  contracts

/-- Only the artifacts of a framework without a set of its own are printed with templates of another. -/
def bundledRendered (target : Target) (artifact : Artifact) : Rendered :=
  ⟨artifact, target.framework.ownSet?.isNone⟩

theorem render_builtin {α : Type} [Printable α] (target : Target) (kind : ArtifactKind)
    (pick : ArtifactTemplates → Bundled α) (name subject : String) (context : α)
    (contracts : List Contract) :
    render .builtin target kind pick name subject context contracts =
      .ok (bundledRendered target (bundledArtifact target kind pick name subject context contracts)) := by
  have printed : TemplateSource.printFound .builtin (pick target.framework.templateSet.templates) context
      .bundled = .ok ((pick target.framework.templateSet.templates).template.render context) := by
    cases pick target.framework.templateSet.templates <;> rfl
  have resolved : TemplateSource.resolve .builtin target.framework.templateSet kind =
      .ok ⟨target.framework.templateSet, false, .bundled⟩ := rfl
  simp only [render, resolved, bind, Except.bind, printed, pure, Except.pure, Bool.false_or]
  rfl

section Artifacts

variable (spec : Specification) (target : Target)

def componentArtifact (entity : Entity) : Artifact :=
  let context := entityContext spec (Convention.of target.language) entity
  bundledArtifact target .component (·.component) entity.name entity.subject context
    (componentContracts target entity.subject context)

def modelArtifact (entity : Entity) : Artifact :=
  let context := entityContext spec (Convention.of target.language) entity
  bundledArtifact target .model (·.model) entity.name entity.subject context
    [⟨.dataModels, entity.subject, fieldElements context.fields⟩]

def pageArtifact (flow : Flow) : Artifact :=
  let convention := Convention.of target.language
  let steps := StepView.all spec convention flow
  bundledArtifact target .page (·.page) flow.name flow.subject
    { trace := traceMarker flow.subject, flow := FlowView.of convention flow, steps }
    [⟨.businessLogic, flow.subject, steps.map fun step =>
      { name := step.handler, required := true, nativeType := step.type }⟩]

def serviceArtifact (component : Component) : Artifact :=
  bundledArtifact target .service (·.service) component.name component.subject
    { trace := traceMarker component.subject, component := ComponentView.of spec component } []

def policyArtifact : Artifact :=
  bundledArtifact target .repository (·.repository) "data access policy" policySubject
    { trace := traceMarker policySubject
      rules := spec.compliance.rules.map (RuleView.of (Convention.of target.language)) }
    (spec.compliance.rules.map fun rule =>
      ⟨.security, rule.subject, [{ name := rule.implementation.keyword, required := true }]⟩)

/-- The policy stands only where there are rules. -/
def policyArtifacts : List Artifact :=
  if spec.compliance.rules.isEmpty then [] else [policyArtifact spec target]

/-- All artifacts in the order of the sections. -/
def artifacts : List Artifact :=
  spec.entities.flatMap (fun entity => [componentArtifact spec target entity, modelArtifact spec target entity]) ++
    spec.flows.map (pageArtifact spec target) ++
    spec.architecture.components.map (serviceArtifact spec target) ++ policyArtifacts spec target

/-- What was declared, compared with what the artifacts hold. -/
def comparison : Comparison :=
  Comparison.compare target.id (spec.declared target) ((artifacts spec target).flatMap (·.contracts))

end Artifacts

theorem renderEntity_builtin (spec : Specification) (target : Target) :
    renderEntity .builtin spec target = fun entity => pure
      ([componentArtifact spec target entity, modelArtifact spec target entity].map (bundledRendered target)) := by
  funext entity
  simp only [renderEntity, render_builtin, bind, Except.bind]
  rfl

theorem renderFlow_builtin (spec : Specification) (target : Target) :
    renderFlow .builtin spec target = fun flow => pure (bundledRendered target (pageArtifact spec target flow)) := by
  funext flow
  simp only [renderFlow, render_builtin]
  rfl

theorem renderComponent_builtin (spec : Specification) (target : Target) :
    renderComponent .builtin spec target = fun component =>
      pure (bundledRendered target (serviceArtifact spec target component)) := by
  funext component
  simp only [renderComponent, render_builtin]
  rfl

theorem renderPolicy_builtin (spec : Specification) (target : Target) :
    renderPolicy .builtin spec target = pure ((policyArtifacts spec target).map (bundledRendered target)) := by
  simp only [renderPolicy, render_builtin, policyArtifacts, bind, Except.bind]
  split <;> rfl

/-- With the bundled templates every element is printed. -/
theorem renderAll_builtin (spec : Specification) (target : Target) :
    renderAll .builtin spec target = .ok ((artifacts spec target).map (bundledRendered target)) := by
  simp only [renderAll, renderEntity_builtin, renderFlow_builtin, renderComponent_builtin,
    renderPolicy_builtin, List.mapM_pure, pure_bind]
  rw [artifacts, List.map_append, List.map_append, List.map_append, List.map_flatMap, List.map_map,
    List.map_map, List.flatMap_def]
  rfl

/-- An artifact without what depends on the template that printed it. -/
def outline (artifact : Artifact) : Artifact := { artifact with content := "", template := "" }

section Outline

variable {source : TemplateSource} {spec : Specification} {target : Target}

theorem outline_render {α : Type} [Printable α] {kind : ArtifactKind} {pick : ArtifactTemplates → Bundled α}
    {name subject : String} {context : α} {contracts : List Contract} {rendered : Rendered}
    (printed : render source target kind pick name subject context contracts = .ok rendered) :
    outline rendered.artifact = outline (bundledArtifact target kind pick name subject context contracts) := by
  obtain ⟨resolved, _, printed⟩ := exists_of_bind_eq_ok printed
  obtain ⟨content, _, printed⟩ := exists_of_bind_eq_ok printed
  exact Except.ok.inj printed ▸ rfl

theorem outline_renderEntity {entity : Entity} {rendered : List Rendered}
    (printed : renderEntity source spec target entity = .ok rendered) :
    rendered.map (outline ·.artifact) =
      [componentArtifact spec target entity, modelArtifact spec target entity].map outline := by
  obtain ⟨component, first, printed⟩ := exists_of_bind_eq_ok printed
  obtain ⟨model, second, printed⟩ := exists_of_bind_eq_ok printed
  obtain rfl := Except.ok.inj printed
  rw [List.map_cons, List.map_singleton, outline_render first, outline_render second]
  rfl

theorem outline_renderPolicy {rendered : List Rendered} (printed : renderPolicy source spec target = .ok rendered) :
    rendered.map (outline ·.artifact) = (policyArtifacts spec target).map outline := by
  rw [renderPolicy] at printed
  rw [policyArtifacts]
  split at printed
  · next none =>
    obtain rfl := Except.ok.inj printed
    rw [if_pos none]
    rfl
  · next some =>
    obtain ⟨policy, only, printed⟩ := exists_of_bind_eq_ok printed
    obtain rfl := Except.ok.inj printed
    rw [if_neg some, List.map_singleton, List.map_singleton, outline_render only]
    rfl

/-- Every source that has the templates gives the artifacts that the bundled ones give, up to their texts. -/
theorem outline_renderAll {rendered : List Rendered} (printed : renderAll source spec target = .ok rendered) :
    rendered.map (outline ·.artifact) = (artifacts spec target).map outline := by
  obtain ⟨entities, first, printed⟩ := exists_of_bind_eq_ok printed
  obtain ⟨flows, second, printed⟩ := exists_of_bind_eq_ok printed
  obtain ⟨components, third, printed⟩ := exists_of_bind_eq_ok printed
  obtain ⟨policy, fourth, printed⟩ := exists_of_bind_eq_ok printed
  obtain rfl := Except.ok.inj printed
  have ofEntities : entities.flatten.map (outline ·.artifact) = spec.entities.flatMap fun entity =>
      [componentArtifact spec target entity, modelArtifact spec target entity].map outline := by
    rw [List.map_flatten, List.flatMap_def]
    exact congrArg List.flatten (map_of_mapM_ok (fun _ _ => outline_renderEntity) first)
  have ofFlows : flows.map (outline ·.artifact) = spec.flows.map fun flow => outline (pageArtifact spec target flow) :=
    map_of_mapM_ok (fun _ _ => outline_render) second
  have ofComponents : components.map (outline ·.artifact) =
      spec.architecture.components.map fun component => outline (serviceArtifact spec target component) :=
    map_of_mapM_ok (fun _ _ => outline_render) third
  simp only [artifacts, List.map_append, List.map_flatMap, List.map_map, ofEntities, ofFlows, ofComponents,
    outline_renderPolicy fourth]
  rfl

/-- What the texts have no part in is the same from every source. -/
theorem map_renderAll {γ : Type} {view : Artifact → γ} (plain : ∀ artifact, view (outline artifact) = view artifact)
    {rendered : List Rendered} (printed : renderAll source spec target = .ok rendered) :
    (rendered.map (·.artifact)).map view = (artifacts spec target).map view := by
  have same := congrArg (List.map view) (outline_renderAll printed)
  rwa [List.map_map, List.map_map, show view ∘ (fun item : Rendered => outline item.artifact) =
    view ∘ (·.artifact) from funext fun item => plain item.artifact, show view ∘ outline = view from funext plain,
    ← List.map_map] at same

end Outline

theorem exists_manifest (spec : Specification) (framework : Framework) :
    ∃ manifest, Manifest.build .builtin spec framework = .ok manifest ∧
      Manifest.configurationFiles .builtin spec framework = .ok manifest.configuration ∧
      manifest.configuration.map (·.path) = framework.configurationPaths := by
  obtain ⟨files, printed, paths⟩ : ∃ files, Manifest.configurationFiles .builtin spec framework = .ok files ∧
      files.map (·.path) = framework.configurationPaths := by
    cases framework <;> exact ⟨_, rfl, rfl⟩
  exact ⟨⟨files, framework.packages.dependencies, framework.packages.buildScripts⟩,
    by simp only [Manifest.build, printed]; rfl, printed, paths⟩

theorem printNamed_builtin {α : Type} [Printable α] (name : String) (template : Template α) (context : α) :
    TemplateSource.printNamed .builtin name template context = .ok (template.render context) := rfl

/-- The result of a target that was generated with the bundled templates. -/
structure IsGenerated (spec : Specification) (target : Target) (result : GenerationResult) : Prop where
  targetId : result.targetId = target.id
  success : result.success = true
  attempts : result.attempts = 1
  files : result.output.files = artifacts spec target
  configuration : result.output.configuration.map (·.path) = target.framework.configurationPaths
  documentation : result.output.documentation.map (·.path) = ["README.md"]
  score : result.score = Preservation.score (comparison spec target) (artifacts spec target)
  coverage : result.coverage = (comparison spec target).coverage
  variations : result.variations =
    substitutions target ((artifacts spec target).map (bundledRendered target)) ++
      (comparison spec target).variations
  features : result.features = spec.mapFeatures target (artifacts spec target)
  configured : Manifest.configurationFiles .builtin spec target.framework = .ok result.output.configuration
  measures : ∀ category : OptimizationCategory, (result.performance.get category.metric).isFloat = true

/-- A specification without structural errors has a result for every measured target. -/
theorem exists_generate {spec : Specification} {target : Target} (valid : spec.structuralErrors = [])
    (measured : target.isMeasured = true) :
    ∃ result, generate .builtin spec target = .ok result ∧ IsGenerated spec target result := by
  obtain ⟨manifest, built, configured, paths⟩ := exists_manifest spec target.framework
  have same : ((artifacts spec target).map (bundledRendered target)).map (·.artifact) = artifacts spec target := by
    rw [List.map_map]
    exact List.map_id _
  obtain ⟨performance, estimated, measures⟩ := target.exists_estimate measured
    (artifacts spec target).length (OutputBundle.totalBytes { files := artifacts spec target })
  have total (bundle : OutputBundle) (here : bundle.files = artifacts spec target) :
      target.estimate (artifacts spec target).length bundle.totalBytes = .ok performance := by
    rw [← estimated, OutputBundle.totalBytes, OutputBundle.totalBytes, here]
  simp only [generate, valid, List.isEmpty_nil, Bool.not_true, Bool.false_eq_true, if_false, renderAll_builtin,
    Except.mapError, bind, Except.bind, built, printNamed_builtin, assemble, same, total, pure, Except.pure]
  exact ⟨_, rfl, rfl, rfl, rfl, rfl, paths, rfl, rfl, rfl, rfl, rfl, configured, measures⟩

/-- With structural errors every target has a failed result that lists them. -/
theorem generate_of_structuralErrors {source : TemplateSource} {spec : Specification} {target : Target}
    (broken : spec.structuralErrors ≠ []) :
    generate source spec target = .ok
      (GenerationResult.failed spec target (structuralFailure spec.structuralErrors) spec.fingerprint 1) :=
  if_pos (by simpa using broken)

theorem configurationPaths_of_build {source : TemplateSource} {spec : Specification} {framework : Framework}
    {manifest : Manifest} (built : Manifest.build source spec framework = .ok manifest) :
    manifest.configuration.map (·.path) = framework.configurationPaths := by
  obtain ⟨files, printed, built⟩ := exists_of_bind_eq_ok built
  obtain rfl := Except.ok.inj built
  cases framework with
  | iosSwift | androidKotlin | python | java =>
    obtain ⟨content, _, printed⟩ := exists_of_bind_eq_ok printed
    exact Except.ok.inj printed ▸ rfl
  | react | vue | angular | svelte | flutter | reactNative | electron | nodejs | go | rust =>
    exact Except.ok.inj printed ▸ rfl

/-- A result that was made of printed files. Nothing in it depends on the texts of the files but the scores of
traces and the measures. -/
structure IsAssembled (spec : Specification) (target : Target) (rendered : List Rendered)
    (result : GenerationResult) : Prop where
  targetId : result.targetId = target.id
  success : result.success = true
  files : result.output.files = rendered.map (·.artifact)
  configuration : result.output.configuration.map (·.path) = target.framework.configurationPaths
  documentation : result.output.documentation.map (·.path) = ["README.md"]
  validation : result.validation = none
  coverage : result.coverage = (Comparison.compare target.id (spec.declared target)
    ((rendered.map (·.artifact)).flatMap (·.contracts))).coverage
  score : result.score = Preservation.score (Comparison.compare target.id (spec.declared target)
    ((rendered.map (·.artifact)).flatMap (·.contracts))) (rendered.map (·.artifact))
  variations : result.variations = substitutions target rendered ++ (Comparison.compare target.id
    (spec.declared target) ((rendered.map (·.artifact)).flatMap (·.contracts))).variations

/-- Without structural errors every result was made of printed files. -/
theorem assembled_of_generate {source : TemplateSource} {spec : Specification} {target : Target}
    {result : GenerationResult} (valid : spec.structuralErrors = [])
    (generated : generate source spec target = .ok result) :
    ∃ rendered, renderAll source spec target = .ok rendered ∧ IsAssembled spec target rendered result := by
  rw [generate, if_neg (by simp [valid])] at generated
  obtain ⟨rendered, printed, generated⟩ := exists_of_bind_eq_ok generated
  obtain ⟨manifest, built, generated⟩ := exists_of_bind_eq_ok generated
  obtain ⟨readme, _, generated⟩ := exists_of_bind_eq_ok generated
  obtain ⟨performance, _, made⟩ := exists_of_bind_eq_ok (ok_of_mapError generated)
  obtain rfl := Except.ok.inj made
  exact ⟨rendered, ok_of_mapError printed, rfl, rfl, rfl, configurationPaths_of_build (ok_of_mapError built), rfl,
    rfl, rfl, rfl, rfl⟩

/-- Every result either tells the structural errors or was made of printed files. -/
theorem generate_cases {source : TemplateSource} {spec : Specification} {target : Target}
    {result : GenerationResult} (generated : generate source spec target = .ok result) :
    result = GenerationResult.failed spec target (structuralFailure spec.structuralErrors) spec.fingerprint 1 ∨
      ∃ rendered, renderAll source spec target = .ok rendered ∧ IsAssembled spec target rendered result := by
  by_cases valid : spec.structuralErrors = []
  · exact Or.inr (assembled_of_generate valid generated)
  · rw [generate_of_structuralErrors valid] at generated
    exact Or.inl (Except.ok.inj generated).symm

end Generator

/-- The built-in targets are measured. -/
theorem Catalog.isMeasured {target : Target} (member : target ∈ Catalog.targets) : target.isMeasured = true :=
  (by decide +kernel : ∀ target ∈ Catalog.targets, target.isMeasured = true) target member

end Prism
