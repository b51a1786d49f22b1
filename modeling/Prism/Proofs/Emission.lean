import Prism.Proofs.Generation
import Prism.Validation.Axes

namespace Prism

/-- The contracts of a file, each with the content of the file. -/
def Artifact.emissions (artifact : Artifact) : List (Contract × String) :=
  artifact.contracts.map fun contract => (contract, artifact.content)

namespace Generator

/-- The elements that are emitted for the fields of an entity. -/
def emittedFields (target : Target) (entity : Entity) : List ContractElement :=
  fieldElements (entity.fields.map (FieldView.of (Convention.of target.language)))

/-- The elements that are emitted for the steps of a flow. -/
def emittedSteps (target : Target) (flow : Flow) : List ContractElement :=
  flow.steps.map fun step =>
    { name := (Convention.of target.language).stepHandler step.id, required := true, nativeType := label step.type }

/-- The contracts of one dimension with the contents of their files. -/
def emittedIn (spec : Specification) (target : Target) : Dimension → List (Contract × String)
  | .dataModels => spec.entities.map fun entity =>
    (⟨.dataModels, entity.subject, emittedFields target entity⟩, (modelArtifact spec target entity).content)
  | .userInterface => if target.hasUserInterface then spec.entities.map fun entity =>
    (⟨.userInterface, entity.subject, emittedFields target entity⟩, (componentArtifact spec target entity).content)
    else []
  | .apiContracts => spec.entities.map fun entity =>
    (⟨.apiContracts, entity.subject, entity.operationElements⟩, (componentArtifact spec target entity).content)
  | .errorHandling => spec.entities.map fun entity =>
    (⟨.errorHandling, entity.subject, spec.errorElements⟩, (componentArtifact spec target entity).content)
  | .businessLogic => spec.flows.map fun flow =>
    (⟨.businessLogic, flow.subject, emittedSteps target flow⟩, (pageArtifact spec target flow).content)
  | .security => spec.compliance.rules.map fun rule =>
    (⟨.security, rule.subject, [{ name := rule.implementation.keyword, required := true }]⟩,
      (policyArtifact spec target).content)

variable (spec : Specification) (target : Target)

theorem emissions_entity (entity : Entity) :
    [componentArtifact spec target entity, modelArtifact spec target entity].flatMap Artifact.emissions =
      (if target.hasUserInterface then [(⟨.userInterface, entity.subject, emittedFields target entity⟩,
        (componentArtifact spec target entity).content)] else []) ++
      [(⟨.apiContracts, entity.subject, entity.operationElements⟩, (componentArtifact spec target entity).content),
        (⟨.errorHandling, entity.subject, spec.errorElements⟩, (componentArtifact spec target entity).content),
        (⟨.dataModels, entity.subject, emittedFields target entity⟩, (modelArtifact spec target entity).content)] := by
  simp only [List.flatMap_cons, List.flatMap_nil, Artifact.emissions, componentArtifact, modelArtifact,
    bundledArtifact, componentContracts]
  split <;> rfl

theorem emissions_page (flow : Flow) :
    (pageArtifact spec target flow).emissions =
      [(⟨.businessLogic, flow.subject, emittedSteps target flow⟩, (pageArtifact spec target flow).content)] := by
  simp only [Artifact.emissions, pageArtifact, bundledArtifact, StepView.all, List.map_map]
  rfl

theorem emissions_policy :
    (policyArtifacts spec target).flatMap Artifact.emissions = emittedIn spec target .security := by
  rw [policyArtifacts, emittedIn]
  split
  · next none => simp [List.isEmpty_iff.mp none]
  · rw [List.flatMap_singleton, Artifact.emissions, policyArtifact, bundledArtifact, List.map_map]
    rfl

theorem filter_emittedIn_security (dimension : Dimension) :
    (emittedIn spec target .security).filter (fun emission => emission.1.dimension = dimension) =
      if dimension = .security then emittedIn spec target .security else [] := by
  cases dimension <;> simp [emittedIn, List.filter_map, Function.comp_def]

/-- The contracts of a dimension among all that the files carry. -/
theorem filter_emissions (dimension : Dimension) :
    ((artifacts spec target).flatMap Artifact.emissions).filter (fun emission => emission.1.dimension = dimension) =
      emittedIn spec target dimension := by
  have services : (spec.architecture.components.map (serviceArtifact spec target)).flatMap Artifact.emissions = [] := by
    simp [Artifact.emissions, serviceArtifact, bundledArtifact]
  simp only [artifacts, List.flatMap_append, List.flatMap_assoc, emissions_entity, List.flatMap_map, emissions_page,
    services, emissions_policy, List.append_nil, List.filter_append, List.filter_flatMap, filter_emittedIn_security]
  have none {α : Type} (items : List α) : items.flatMap (fun _ => ([] : List (Contract × String))) = [] := by simp
  cases dimension <;> cases interface : target.hasUserInterface <;>
    simp [emittedIn, interface, none, List.map_eq_flatMap]

variable {spec target}

/-- A validator finds the first contract of a subject. -/
theorem emitted?_of_files {inspection : Inspection} (files : inspection.result.output.files = artifacts spec target)
    (dimension : Dimension) (subject : String) :
    inspection.emitted? dimension subject =
      (emittedIn spec target dimension).find? fun emission => emission.1.subject = subject := by
  rw [← filter_emissions, List.find?_filter, List.find?_flatMap, Inspection.emitted?, files]
  congr 1
  funext file
  rw [Artifact.emissions, List.find?_map]
  simp only [Function.comp_def, Bool.decide_and, Bool.decide_eq_true]

/-- A comparison finds the last one. -/
theorem emittedFor?_artifacts (dimension : Dimension) (subject : String) :
    Comparison.emittedFor? ((artifacts spec target).flatMap (·.contracts)) dimension subject =
      ((emittedIn spec target dimension).reverse.find? fun emission => emission.1.subject = subject).map (·.1) := by
  have contracts : (artifacts spec target).flatMap (·.contracts) =
      ((artifacts spec target).flatMap Artifact.emissions).map (·.1) := by
    simp [List.map_flatMap, Artifact.emissions, Function.comp_def]
  rw [← filter_emissions, ← List.filter_reverse, List.find?_filter, Comparison.emittedFor?, contracts,
    ← List.map_reverse, List.find?_map]
  simp only [Function.comp_def, Bool.decide_and, Bool.decide_eq_true]

end Generator

end Prism
