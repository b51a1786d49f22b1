import Prism.Proofs.Template

namespace Prism

namespace Template

/-- A part of a template shows what it shows wherever it stands. -/
theorem Shows.of_mem_items {text : String} {α : Type} {template part : Template α} {context : α}
    (member : part ∈ template.items) (shown : part.Shows text context) : template.Shows text context := by
  induction template with
  | empty => exact absurd member List.not_mem_nil
  | append first second ihFirst ihSecond =>
    rcases List.mem_append.mp member with inFirst | inSecond
    · exact .first (ihFirst inFirst shown)
    · exact .second (ihSecond inSecond shown)
  | text | hole | each | joined | choose =>
    obtain rfl := List.mem_singleton.mp member
    exact shown

/-- A template that begins with a fixed text and a hole. -/
def OpensWith {α : Type} (fill : α → String) (template : Template α) : Prop :=
  ∃ mark rest, template.items = .text mark :: .hole fill :: rest

theorem OpensWith.within {α : Type} {fill : α → String} {template : Template α} (opens : template.OpensWith fill)
    (context : α) : Text.within (fill context) (template.render context) = true := by
  obtain ⟨mark, rest, same⟩ := opens
  have member : Template.hole fill ∈ template.items := by
    rw [same]
    exact List.mem_cons_of_mem _ (List.mem_cons_self ..)
  have shown : template.Shows (fill context) context := .of_mem_items member (.hole rfl)
  rw [Text.within_iff, render, String.toList_ofList]
  exact shown.isInfix

section Openings

variable (set : TemplateSet)

theorem opens_component : set.templates.component.template.OpensWith (·.trace) := by
  cases set <;> exact ⟨_, _, rfl⟩

theorem opens_model : set.templates.model.template.OpensWith (·.trace) := by
  cases set <;> exact ⟨_, _, rfl⟩

theorem opens_page : set.templates.page.template.OpensWith (·.trace) := by
  cases set <;> exact ⟨_, _, rfl⟩

theorem opens_service : set.templates.service.template.OpensWith (·.trace) := by
  cases set <;> exact ⟨_, _, rfl⟩

theorem opens_repository : set.templates.repository.template.OpensWith (·.trace) := by
  cases set <;> exact ⟨_, _, rfl⟩

end Openings

end Template

/-- The kinds of the artifacts of a specification with the elements that they are made from. -/
def Specification.sources (spec : Specification) : List (ArtifactKind × String) :=
  spec.entities.flatMap (fun entity =>
      [(.component, "entity:" ++ entity.id), (.model, "entity:" ++ entity.id)]) ++
    spec.flows.map (fun flow => (.page, "flow:" ++ flow.id)) ++
    spec.architecture.components.map (fun component => (.service, "component:" ++ component.id)) ++
    if spec.compliance.rules.isEmpty then [] else [(.repository, "compliance:rules")]

namespace Generator

section Artifacts

variable (spec : Specification) (target : Target)

theorem sources_artifacts : (artifacts spec target).map (fun file => (file.kind, file.source)) = spec.sources := by
  have policy : (policyArtifacts spec target).map (fun file => (file.kind, file.source)) =
      if spec.compliance.rules.isEmpty then [] else [(.repository, "compliance:rules")] := by
    rw [policyArtifacts]
    split <;> rfl
  simp only [artifacts, List.map_append, List.map_flatMap, List.map_map, policy]
  rfl

theorem isTraced_bundledArtifact {α : Type} (kind : ArtifactKind) {pick : ArtifactTemplates → Bundled α}
    {trace : α → String} (opens : (pick target.framework.templateSet.templates).template.OpensWith trace)
    (name : String) {subject : String} {context : α} (told : trace context = traceMarker subject)
    (contracts : List Contract) :
    (bundledArtifact target kind pick name subject context contracts).isTraced = true := by
  have shown := opens.within context
  rwa [told] at shown

/-- Every artifact tells its source. -/
theorem isTraced_artifacts : ∀ file ∈ artifacts spec target, file.isTraced = true := by
  let set := target.framework.templateSet
  intro file member
  simp only [artifacts, policyArtifacts, List.mem_append, List.mem_flatMap, List.mem_cons, List.not_mem_nil, or_false,
    List.mem_map, List.mem_ite_nil_left] at member
  rcases member with ((⟨entity, _, rfl | rfl⟩ | ⟨flow, _, rfl⟩) | ⟨component, _, rfl⟩) | ⟨_, rfl⟩
  · exact isTraced_bundledArtifact target _ (Template.opens_component set) _ rfl _
  · exact isTraced_bundledArtifact target _ (Template.opens_model set) _ rfl _
  · exact isTraced_bundledArtifact target _ (Template.opens_page set) _ rfl _
  · exact isTraced_bundledArtifact target _ (Template.opens_service set) _ rfl _
  · exact isTraced_bundledArtifact target _ (Template.opens_repository set) _ rfl _

end Artifacts

/-- With the bundled templates nothing but a number can keep a target from a result. -/
theorem number_of_generate_error {spec : Specification} {target : Target} {fault : GenerationFault}
    (valid : spec.structuralErrors = []) (fails : generate .builtin spec target = .error fault) :
    ∃ number, fault = .number number := by
  obtain ⟨manifest, built, _⟩ := exists_manifest spec target.framework
  simp only [generate, valid, List.isEmpty_nil, Bool.not_true, Bool.false_eq_true, if_false, renderAll_builtin,
    Except.mapError, bind, Except.bind, built, printNamed_builtin] at fails
  split at fails
  · next number _ => exact ⟨number, (Except.error.inj fails).symm⟩
  · cases fails

/-- For every target the artifacts follow the specification and tell their sources, so that all of them count as
traced. Only a target with measures that are too large can be without a result. -/
theorem generate_traces_artifacts (spec : Specification) (target : Target) (valid : spec.structuralErrors = []) :
    ∃ rendered, renderAll .builtin spec target = .ok rendered ∧
      (rendered.map fun item => (item.artifact.kind, item.artifact.source)) = spec.sources ∧
      (∀ item ∈ rendered, Text.within ("@source " ++ item.artifact.source) item.artifact.content = true) ∧
      ((∃ result, generate .builtin spec target = .ok result ∧ result.output.files = rendered.map (·.artifact) ∧
          result.score.traceability = ⟨.float (fraction rendered.length rendered.length),
            Preservation.note rendered.length rendered.length "artifacts carry a trace marker"⟩) ∨
        target.isMeasured = false ∧ ∃ fault, generate .builtin spec target = .error (.number fault)) := by
  have traced := isTraced_artifacts spec target
  have files : ((artifacts spec target).map (bundledRendered target)).map (·.artifact) = artifacts spec target := by
    rw [List.map_map]
    exact List.map_id _
  refine ⟨_, renderAll_builtin spec target, ?_, ?_, ?_⟩
  · rw [List.map_map]
    exact sources_artifacts spec target
  · intro item member
    obtain ⟨file, inFiles, rfl⟩ := List.mem_map.mp member
    exact traced file inFiles
  · cases generated : generate .builtin spec target with
    | ok result =>
      obtain ⟨rendered, printed, assembled⟩ := assembled_of_generate valid generated
      obtain rfl := Except.ok.inj ((renderAll_builtin spec target).symm.trans printed)
      refine Or.inl ⟨result, rfl, assembled.files, ?_⟩
      rw [assembled.score, files, Preservation.score, List.countP_eq_length.mpr traced, List.length_map]
    | error fault =>
      refine Or.inr ⟨?_, ?_⟩
      · rw [← Bool.not_eq_true]
        intro measured
        obtain ⟨result, succeeds, _⟩ := exists_generate valid measured
        exact nomatch generated.symm.trans succeeds
      · obtain ⟨number, rfl⟩ := number_of_generate_error valid generated
        exact ⟨number, rfl⟩

/-- One element of every kind, with ids that are no words. -/
def oddIds : Specification where
  metadata := { name := "odd" }
  entities := [{ id := "*/ 1\n", name := "Item", fields := [{ id := "code", name := "Code", type := .string }] }]
  flows := [{ id := "\"<sell>", name := "Sell", steps := [{ id := "pay", name := "Pay", type := .form }] }]
  architecture := { components := [{ id := "\\n", name := "Till", type := "service" }] }
  compliance := { rules := [{ id := "", name := "Keep", implementation := .encryption }] }

/-- A target whose framework has no templates of its own. -/
def uncharted : Target := { Catalog.webReact with framework := .svelte }

theorem generate_traces_artifacts_uncharted :
    oddIds.structuralErrors = [] ∧ ∃ result, generate .builtin oddIds uncharted = .ok result ∧
      result.output.files.map (fun file => (file.kind, file.source)) =
        [(.component, "entity:*/ 1\n"), (.model, "entity:*/ 1\n"), (.page, "flow:\"<sell>"),
          (.service, "component:\\n"), (.repository, "compliance:rules")] ∧
      ∀ file ∈ result.output.files, Text.within ("@source " ++ file.source) file.content = true := by
  have valid : oddIds.structuralErrors = [] := by decide
  obtain ⟨rendered, _, sources, traced, ⟨result, generated, files, _⟩ | ⟨unmeasured, _⟩⟩ :=
    generate_traces_artifacts oddIds uncharted valid
  · refine ⟨valid, result, generated, ?_, ?_⟩
    · rw [files, List.map_map]
      exact sources
    · rw [files]
      exact List.forall_mem_map.mpr traced
  · exact absurd unmeasured (by decide +kernel)

end Generator

end Prism
