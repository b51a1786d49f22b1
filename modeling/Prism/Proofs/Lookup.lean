import Prism.Proofs.Emission
import Prism.Proofs.Findings
import Prism.Proofs.Structure
import Prism.Proofs.Template
import Prism.Proofs.Words.Canonical

namespace Prism

theorem Words.splitChars_handle (id : String) :
    splitChars ("handle_" ++ id).toList = "handle".toList :: splitChars id.toList := by
  have isWord : IsWord "handle".toList := ⟨by decide, Or.inl (by simp)⟩
  exact splitChars_append_underscore isWord id

/-- A field is found by its id exactly when the language keeps words apart or the id has no letters behind
each other after its first word. -/
theorem Convention.exists_identifier_iff {convention : Convention} {fields : List Field} {field : Field}
    (member : field ∈ fields) :
    (∃ other ∈ fields, Words.canonical (convention.identifier other.id) = Words.canonical field.id) ↔
      (convention.casing = .camel → Words.Apart Words.isLetter (Words.splitChars field.id.toList).tail) := by
  constructor
  · rintro ⟨other, _, same⟩ camel
    rw [Words.identifier_of_camel camel] at same
    exact Words.apart_of_canonical_camel same
  · intro apart
    exact ⟨field, member, Words.canonical_identifier_iff.mpr apart⟩

theorem Convention.apart_of_canonical_stepHandler {convention : Convention} (camel : convention.casing = .camel)
    {other step : FlowStep} (same : Words.canonical (convention.stepHandler other.id) = step.handler) :
    Words.Apart Words.isLetter (Words.splitChars step.id.toList) := by
  rw [stepHandler, Words.identifier_of_camel camel] at same
  have apart := Words.apart_of_canonical_camel same
  rwa [Words.splitChars_handle] at apart

theorem Convention.canonical_stepHandler {convention : Convention} {step : FlowStep}
    (apart : convention.casing = .camel → Words.Apart Words.isLetter (Words.splitChars step.id.toList)) :
    Words.canonical (convention.stepHandler step.id) = step.handler := by
  refine Words.canonical_identifier_iff.mpr fun camel => ?_
  rw [Words.splitChars_handle]
  exact apart camel

/-- No field has an id with two letters behind each other after its first word. -/
def Specification.HasReadableFields (spec : Specification) : Prop :=
  ∀ entity ∈ spec.entities, ∀ field ∈ entity.fields,
    Words.Apart Words.isLetter (Words.splitChars field.id.toList).tail

/-- No step has an id with two letters behind each other. -/
def Specification.HasReadableSteps (spec : Specification) : Prop :=
  ∀ flow ∈ spec.flows, ∀ step ∈ flow.steps, Words.Apart Words.isLetter (Words.splitChars step.id.toList)

/-- The first flow of an id. -/
def Specification.flow? (spec : Specification) (id : String) : Option Flow :=
  spec.flows.find? (·.id = id)

/-- A step whose handler the first flow of its id lacks. -/
def Specification.LacksHandler (spec : Specification) (flow : Flow) (step : FlowStep) : Prop :=
  ∃ first ∈ spec.flow? flow.id, ∀ other ∈ first.steps, other.handler ≠ step.handler

namespace Inspection

theorem fieldProblems_head {field : Field} {element : ContractElement} {content problem : String}
    (member : problem ∈ fieldProblems field element content) : ∃ c ∈ problem.toList.head?, c ≠ 'f' := by
  simp only [fieldProblems, List.mem_append] at member
  rcases member with (member | member) | member <;> split at member <;>
    simp only [List.not_mem_nil, List.mem_singleton] at member
  all_goals
    rw [member]
    simp

/-- A field is told to be missing exactly when it is not found. -/
theorem fieldDetail_missing_iff {entity : Entity} {found : Option (Contract × String)} {field : Field} :
    "field not emitted".toList <+: (fieldDetail entity found field).message.toList ↔
      element? found (Words.canonical field.id) = none := by
  cases here : element? found (Words.canonical field.id) with
  | none => simp [fieldDetail, here, ValidationDetail.critical]
  | some pair =>
    obtain ⟨element, content⟩ := pair
    simp only [fieldDetail, here, reduceCtorEq, iff_false]
    rintro ⟨tail, message⟩
    have head := congrArg List.head? message
    cases problems : fieldProblems field element content with
    | nil => simp [problems, ValidationDetail.success] at head
    | cons problem others =>
      have inside : problem ∈ fieldProblems field element content := problems ▸ List.mem_cons_self
      obtain ⟨c, start, other⟩ := fieldProblems_head inside
      obtain ⟨rest, same⟩ := List.head?_eq_some_iff.mp start
      refine other (Eq.symm ?_)
      cases others <;>
        simpa [problems, ValidationDetail.warning, String.toList_intercalate, List.intercalate, same] using head

/-- A step is told to have no handler exactly when none is found that its page names. -/
theorem stepDetail_missing_iff {flow : Flow} {found : Option (Contract × String)} {step : FlowStep} :
    "no handler for step".toList <+: (stepDetail flow found step).message.toList ↔
      ∀ pair ∈ element? found step.handler, Text.within pair.1.name pair.2 = false := by
  cases here : element? found step.handler with
  | none => simp [stepDetail, here, ValidationDetail.critical]
  | some pair =>
    obtain ⟨element, content⟩ := pair
    cases shown : Text.within element.name content with
    | false => simp [stepDetail, here, shown, ValidationDetail.critical]
    | true =>
      simp only [stepDetail, here, shown, if_true, Option.mem_def, Option.some.injEq, forall_eq', Bool.true_eq_false,
        iff_false]
      rintro ⟨tail, message⟩
      have head := congrArg List.head? message
      simp [ValidationDetail.success] at head

theorem element?_eq_none_iff {contract : Contract} {content canonical : String} :
    element? (some (contract, content)) canonical = none ↔
      ∀ element ∈ contract.elements, Words.canonical element.name ≠ canonical := by
  simp [element?]

/-- Where the content names all elements, only one that is not there goes unnamed. -/
theorem element?_unnamed_iff {contract : Contract} {content canonical : String}
    (named : ∀ element ∈ contract.elements, Text.within element.name content = true) :
    (∀ pair ∈ element? (some (contract, content)) canonical, Text.within pair.1.name pair.2 = false) ↔
      ∀ element ∈ contract.elements, Words.canonical element.name ≠ canonical := by
  rw [← element?_eq_none_iff, Option.eq_none_iff_forall_not_mem]
  constructor
  · intro unnamed pair found
    obtain ⟨element, here, rfl⟩ := Option.map_eq_some_iff.mp found
    exact absurd (named element (List.mem_of_find?_eq_some here)) (by simp [unnamed _ found])
  · intro none pair found
    exact absurd found (none pair)

/-- The page of a flow names all handlers that it emits. -/
theorem within_page {spec : Specification} {target : Target} {flow : Flow} {element : ContractElement}
    (member : element ∈ Generator.emittedSteps target flow) :
    Text.within element.name (Generator.pageArtifact spec target flow).content = true := by
  obtain ⟨step, inside, rfl⟩ := List.mem_map.mp member
  rw [Text.within_iff, Generator.pageArtifact, Generator.bundledArtifact, Template.render, String.toList_ofList]
  have viewed : StepView.of spec (Convention.of target.language) flow step ∈
      StepView.all spec (Convention.of target.language) flow := List.mem_map_of_mem inside
  exact (Template.shows_page _ ⟨_, _, _⟩ viewed).isInfix

section Files

variable {inspection : Inspection}
  (files : inspection.result.output.files = Generator.artifacts inspection.spec inspection.target)

include files

theorem emitted?_dataModels (distinct : inspection.spec.IsDistinct) {entity : Entity}
    (member : entity ∈ inspection.spec.entities) :
    ∃ content, inspection.emitted? .dataModels entity.subject =
      some (⟨.dataModels, entity.subject, Generator.emittedFields inspection.target entity⟩, content) := by
  have found := find?_of_nodup distinct.ids member
  simp only [Generator.emitted?_of_files files, Generator.emittedIn, List.find?_map, Function.comp_def,
    Entity.subject_inj, found, Option.map_some]
  exact ⟨_, rfl⟩

/-- A field is missing on the axis exactly when its emitted name is read otherwise. -/
theorem semantics_missing_iff (distinct : inspection.spec.IsDistinct) :
    (∃ detail ∈ inspection.semantics.details, "field not emitted".toList <+: detail.message.toList) ↔
      (Convention.of inspection.target.language).casing = .camel ∧ ¬ inspection.spec.HasReadableFields := by
  have missing {entity : Entity} (inside : entity ∈ inspection.spec.entities) {field : Field}
      (member : field ∈ entity.fields) : "field not emitted".toList <+:
        (fieldDetail entity (inspection.emitted? .dataModels entity.subject) field).message.toList ↔
      (Convention.of inspection.target.language).casing = .camel ∧
        ¬ Words.Apart Words.isLetter (Words.splitChars field.id.toList).tail := by
    obtain ⟨content, emitted⟩ := emitted?_dataModels files distinct inside
    have found := (@Convention.exists_identifier_iff (Convention.of inspection.target.language) _ _ member).not
    rw [fieldDetail_missing_iff, emitted, element?_eq_none_iff]
    simpa [Generator.emittedFields, Generator.fieldElements, FieldView.of] using found
  simp only [semantics, List.mem_flatMap, List.mem_map]
  constructor
  · rintro ⟨_, ⟨entity, inside, field, member, rfl⟩, message⟩
    obtain ⟨camel, blurred⟩ := (missing inside member).mp message
    exact ⟨camel, fun readable => blurred (readable entity inside field member)⟩
  · rintro ⟨camel, unreadable⟩
    obtain ⟨entity, inside, field, member, blurred⟩ : ∃ entity ∈ inspection.spec.entities, ∃ field ∈ entity.fields,
        ¬ Words.Apart Words.isLetter (Words.splitChars field.id.toList).tail := by
      simpa [Specification.HasReadableFields] using unreadable
    exact ⟨_, ⟨entity, inside, field, member, rfl⟩, (missing inside member).mpr ⟨camel, blurred⟩⟩

theorem emitted?_businessLogic (flow : Flow) :
    inspection.emitted? .businessLogic flow.subject = (inspection.spec.flow? flow.id).map fun first =>
      (⟨.businessLogic, first.subject, Generator.emittedSteps inspection.target first⟩,
        (Generator.pageArtifact inspection.spec inspection.target first).content) := by
  simp only [Generator.emitted?_of_files files, Generator.emittedIn, List.find?_map, Function.comp_def,
    Flow.subject_inj, Specification.flow?]

/-- A step has no handler on the axis exactly when the first flow of its id emits none that is read so. -/
theorem stepDetail_businessLogic_iff {flow : Flow} (member : flow ∈ inspection.spec.flows) (step : FlowStep) :
    "no handler for step".toList <+:
        (stepDetail flow (inspection.emitted? .businessLogic flow.subject) step).message.toList ↔
      ∃ first ∈ inspection.spec.flow? flow.id, ∀ other ∈ first.steps,
        Words.canonical ((Convention.of inspection.target.language).stepHandler other.id) ≠ step.handler := by
  obtain ⟨first, _, _, found⟩ := @exists_find? _ Flow.id _ _ member
  rw [stepDetail_missing_iff, emitted?_businessLogic files, Specification.flow?, found, Option.map_some,
    element?_unnamed_iff fun _ member => within_page member]
  simp [Generator.emittedSteps]

/-- Steps without a handler: those whose handler is read otherwise, and those that the first flow of their
id lacks. -/
theorem businessLogic_missing_iff :
    (∃ detail ∈ inspection.businessLogic.details, "no handler for step".toList <+: detail.message.toList) ↔
      (Convention.of inspection.target.language).casing = .camel ∧ ¬ inspection.spec.HasReadableSteps ∨
      ∃ flow ∈ inspection.spec.flows, ∃ step ∈ flow.steps, inspection.spec.LacksHandler flow step := by
  have details : (∃ detail ∈ inspection.businessLogic.details, "no handler for step".toList <+: detail.message.toList) ↔
      ∃ flow ∈ inspection.spec.flows, ∃ step ∈ flow.steps, ∃ first ∈ inspection.spec.flow? flow.id,
        ∀ other ∈ first.steps,
          Words.canonical ((Convention.of inspection.target.language).stepHandler other.id) ≠ step.handler := by
    simp only [businessLogic, List.mem_flatMap, List.mem_map]
    constructor
    · rintro ⟨_, ⟨flow, inside, step, member, rfl⟩, message⟩
      exact ⟨flow, inside, step, member, (stepDetail_businessLogic_iff files inside step).mp message⟩
    · rintro ⟨flow, inside, step, member, missing⟩
      exact ⟨_, ⟨flow, inside, step, member, rfl⟩, (stepDetail_businessLogic_iff files inside step).mpr missing⟩
  rw [details]
  by_cases unreadable : (Convention.of inspection.target.language).casing = .camel ∧ ¬ inspection.spec.HasReadableSteps
  · refine iff_of_true ?_ (Or.inl unreadable)
    obtain ⟨flow, inside, step, member, blurred⟩ : ∃ flow ∈ inspection.spec.flows, ∃ step ∈ flow.steps,
        ¬ Words.Apart Words.isLetter (Words.splitChars step.id.toList) := by
      simpa [Specification.HasReadableSteps] using unreadable.2
    obtain ⟨first, _, _, found⟩ := @exists_find? _ Flow.id _ _ inside
    exact ⟨flow, inside, step, member, first, found, fun other _ same =>
      blurred (Convention.apart_of_canonical_stepHandler unreadable.1 same)⟩
  · have read {flow : Flow} (inside : flow ∈ inspection.spec.flows) {step : FlowStep} (member : step ∈ flow.steps) :
        Words.canonical ((Convention.of inspection.target.language).stepHandler step.id) = step.handler := by
      refine Convention.canonical_stepHandler fun camel => ?_
      by_contra blurred
      exact unreadable ⟨camel, fun readable => blurred (readable flow inside step member)⟩
    rw [or_iff_right unreadable]
    constructor
    · rintro ⟨flow, inside, step, member, first, found, missing⟩
      refine ⟨flow, inside, step, member, first, found, fun other within => ?_⟩
      rw [← read (List.mem_of_find?_eq_some found) within]
      exact missing other within
    · rintro ⟨flow, inside, step, member, first, found, missing⟩
      refine ⟨flow, inside, step, member, first, found, fun other within => ?_⟩
      rw [read (List.mem_of_find?_eq_some found) within]
      exact missing other within

end Files

end Inspection

/-- An axis of the outcome has a detail whose message starts with the text. -/
def ValidationOutcome.Reports (outcome : ValidationOutcome) (axis : Axis) (text : String) : Prop :=
  ∃ entry ∈ outcome.axes, entry.axis = label axis ∧ ∃ detail ∈ entry.details, text.toList <+: detail.message.toList

namespace Validator

theorem reports_validate_iff {validator : Validator} {spec : Specification} {target : Target}
    {result : GenerationResult} (success : result.success = true) (axis : Axis) (text : String) :
    (validator.validate spec target result).Reports axis text ↔ axis ∈ validator.axes ∧
      ∃ detail ∈ ((axis.check validator.room).settle ⟨spec, target, result, validator.tolerance⟩).details,
        text.toList <+: detail.message.toList := by
  simp only [axes_validate validator spec target success, ValidationOutcome.Reports, List.mem_map]
  constructor
  · rintro ⟨_, ⟨other, chosen, rfl⟩, same, detail, member, starts⟩
    obtain rfl := Axis.label_injective ((other.name_settle _ _).symm.trans same)
    exact ⟨chosen, detail, member, starts⟩
  · rintro ⟨chosen, detail, member, starts⟩
    exact ⟨_, ⟨axis, chosen, rfl⟩, axis.name_settle _ _, detail, member, starts⟩

section Generated

variable {spec : Specification} {target : Target} {result : GenerationResult} {validator : Validator}

theorem reports_semantics_iff (generated : Generator.IsGenerated spec target result) (distinct : spec.IsDistinct) :
    (validator.validate spec target result).Reports .semantics "field not emitted" ↔ .semantics ∈ validator.axes ∧
      (Convention.of target.language).casing = .camel ∧ ¬ spec.HasReadableFields := by
  rw [reports_validate_iff generated.success]
  exact and_congr_right' (@Inspection.semantics_missing_iff ⟨spec, target, result, _⟩ generated.files distinct)

theorem reports_businessLogic_iff (generated : Generator.IsGenerated spec target result) :
    (validator.validate spec target result).Reports .businessLogic "no handler for step" ↔
      .businessLogic ∈ validator.axes ∧
        ((Convention.of target.language).casing = .camel ∧ ¬ spec.HasReadableSteps ∨
          ∃ flow ∈ spec.flows, ∃ step ∈ flow.steps, spec.LacksHandler flow step) := by
  rw [reports_validate_iff generated.success]
  exact and_congr_right' (@Inspection.businessLogic_missing_iff ⟨spec, target, result, _⟩ generated.files)

end Generated

/-- What validators miss in a result as it was generated. A field is missing exactly where a camel-cased name
is read otherwise than its id; a handler also where flows share an id and the first of them lacks it. -/
theorem validate_reports_iff {spec : Specification} {target : Target} (valid : spec.structuralErrors = [])
    (member : target ∈ Catalog.targets) :
    ∃ result, Generator.generate .builtin spec target = .ok result ∧ ∀ validator : Validator,
      ((validator.validate spec target result).Reports .semantics "field not emitted" ↔
        .semantics ∈ validator.axes ∧ (Convention.of target.language).casing = .camel ∧ ¬ spec.HasReadableFields) ∧
      ((validator.validate spec target result).Reports .businessLogic "no handler for step" ↔
        .businessLogic ∈ validator.axes ∧
          ((Convention.of target.language).casing = .camel ∧ ¬ spec.HasReadableSteps ∨
            ∃ flow ∈ spec.flows, ∃ step ∈ flow.steps, spec.LacksHandler flow step)) := by
  obtain ⟨result, generates, generated⟩ := Generator.exists_generate valid (Catalog.isMeasured member)
  refine ⟨result, generates, fun validator => ⟨?_, reports_businessLogic_iff generated⟩⟩
  exact reports_semantics_iff generated (Specification.isDistinct_of_structuralErrors valid)

/-- A field and a step with letters behind each other. -/
def letteredNames : Specification where
  metadata := { name := "shop" }
  entities := [{ id := "item", name := "Item", fields := [{ id := "a_b_c", name := "Code", type := .string }] }]
  flows := [{ id := "sell", name := "Sell", steps := [{ id := "x_y", name := "Pay", type := .form }] }]

theorem validate_reports_letteredNames :
    ∃ result, Generator.generate .builtin letteredNames Catalog.backendPython = .ok result ∧
      ¬ (({} : Validator).validate letteredNames Catalog.backendPython result).Reports .semantics
        "field not emitted" := by
  obtain ⟨result, generates, reports⟩ := validate_reports_iff
    (by decide : letteredNames.structuralErrors = [])
    (by simp [Catalog.targets] : Catalog.backendPython ∈ Catalog.targets)
  refine ⟨result, generates, fun reported => ?_⟩
  exact absurd ((reports {}).1.mp reported).2.1 (by decide)

/-- Both are missed where names are written in camel case. -/
theorem validate_reports_missing :
    letteredNames.structuralErrors = [] ∧ Catalog.webReact ∈ Catalog.targets ∧
      ∃ result, Generator.generate .builtin letteredNames Catalog.webReact = .ok result ∧
        (({} : Validator).validate letteredNames Catalog.webReact result).Reports .semantics "field not emitted" ∧
        (({} : Validator).validate letteredNames Catalog.webReact result).Reports .businessLogic
          "no handler for step" := by
  have valid : letteredNames.structuralErrors = [] := by decide
  have member : Catalog.webReact ∈ Catalog.targets := List.mem_cons_self
  obtain ⟨result, generates, generated⟩ := Generator.exists_generate valid (Catalog.isMeasured member)
  refine ⟨valid, member, result, generates, ?_, ?_⟩
  · have distinct := Specification.isDistinct_of_structuralErrors valid
    refine (reports_semantics_iff generated distinct).mpr ⟨by decide, rfl, ?_⟩
    intro readable
    exact absurd (readable _ List.mem_cons_self _ List.mem_cons_self) (by decide)
  · refine (reports_businessLogic_iff generated).mpr ⟨by decide, Or.inl ⟨rfl, ?_⟩⟩
    intro readable
    exact absurd (readable _ List.mem_cons_self _ List.mem_cons_self) (by decide)

end Validator

end Prism
