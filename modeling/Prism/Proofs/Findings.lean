import Prism.Proofs.Number
import Prism.Target.Catalog
import Prism.Validation.Validator

namespace Prism

namespace Findings

variable {findings : Findings}

/-- The counts are those of the details. -/
structure IsExact (findings : Findings) : Prop where
  checked : findings.checked = findings.details.length
  satisfied : findings.satisfied = findings.details.countP (·.passed)

theorem passed_outcome {axis : String} :
    (findings.outcome axis).passed = true ↔ ∀ detail ∈ findings.details, detail.passed = true := by
  simp [outcome, AxisOutcome.judge]

theorem IsExact.passed_iff (exact : findings.IsExact) (axis : String) :
    (findings.outcome axis).passed = true ↔ findings.satisfied = findings.checked := by
  rw [passed_outcome, exact.checked, exact.satisfied, List.countP_eq_length]

/-- One detail for each subject, which passes when the subject is in order. -/
theorem isExact_of_map {α : Type} {subjects : List α} {inOrder : α → Bool} {detail : α → ValidationDetail}
    (agrees : ∀ subject, (detail subject).passed = inOrder subject) (empty : String) (weight : Float) :
    IsExact ⟨subjects.length, subjects.countP inOrder, subjects.map detail, empty, weight⟩ where
  checked := (List.length_map detail).symm
  satisfied := by
    rw [List.countP_map]
    exact congrArg (List.countP · subjects) (funext fun subject => (agrees subject).symm)

/-- The same of subjects that are counted group by group. -/
theorem isExact_of_flatMap {α γ : Type} {groups : List γ} {subjects : γ → List α} {inOrder : γ → α → Bool}
    {detail : γ → α → ValidationDetail}
    (agrees : ∀ group subject, (detail group subject).passed = inOrder group subject)
    (empty : String) (weight : Float) :
    IsExact ⟨total (groups.map fun group => (subjects group).length),
      total (groups.map fun group => (subjects group).countP (inOrder group)),
      groups.flatMap fun group => (subjects group).map (detail group), empty, weight⟩ := by
  have single (group : γ) :=
    @isExact_of_map α (subjects group) (inOrder group) (detail group) (agrees group) empty weight
  constructor
  · rw [List.length_flatMap]
    exact congrArg total (List.map_congr_left fun group _ => (single group).checked)
  · rw [List.countP_flatMap]
    exact congrArg total (List.map_congr_left fun group _ => (single group).satisfied)

end Findings

namespace Inspection

variable {inspection : Inspection}

theorem passed_documentDetail (path : String) (verdict : Verdict) :
    (documentDetail path verdict).passed = verdict.problem.isNone := by
  rw [documentDetail]
  cases verdict.problem with
  | none => rfl
  | some problem => rfl

theorem passed_fieldDetail (entity : Entity) (found : Option (Contract × String)) (field : Field) :
    (fieldDetail entity found field).passed = isKept found field := by
  rw [fieldDetail, isKept]
  cases element? found (Words.canonical field.id) with
  | none => rfl
  | some pair =>
    simp only [Option.any_some]
    cases fieldProblems field pair.1 pair.2 with
    | nil => rfl
    | cons problem others => rfl

theorem passed_stepDetail (flow : Flow) (found : Option (Contract × String)) (step : FlowStep) :
    (stepDetail flow found step).passed = isHandled found step := by
  rw [stepDetail, isHandled]
  cases element? found step.handler with
  | none => rfl
  | some pair =>
    simp only [Option.any_some]
    cases Text.within pair.1.name pair.2 with
    | false => rfl
    | true => rfl

theorem passed_capabilityDetail (target : Target) (exercised : List String) (capability : String) :
    (capabilityDetail target exercised capability).passed =
      (capabilityProblems target exercised capability).isEmpty := by
  rw [capabilityDetail]
  cases capabilityProblems target exercised capability with
  | nil => rfl
  | cons problem others => rfl

theorem passed_ruleDetail (contents : List String) (rule : ComplianceRule) :
    (ruleDetail contents rule).passed = isEnforced contents rule := by
  rw [ruleDetail]
  cases isEnforced contents rule with
  | true => rfl
  | false =>
    simp only [Bool.false_eq_true, if_false]
    split <;> rfl

theorem passed_of_checkMeasure {metric : Metric} {keeps : Bool} {value bound : Number} {within beyond : String}
    {told : Bool × ValidationDetail} (checked : checkMeasure metric keeps value bound within beyond = .ok told) :
    told.2.passed = told.1 := by
  obtain ⟨first, _, checked⟩ := exists_of_bind_eq_ok checked
  obtain ⟨second, _, checked⟩ := exists_of_bind_eq_ok checked
  obtain rfl := Except.ok.inj checked
  cases keeps with
  | false => rfl
  | true => rfl

theorem passed_of_checkCost {metric : Metric} {told : Bool × ValidationDetail}
    (checked : inspection.checkCost metric = .ok told) : told.2.passed = told.1 := by
  obtain ⟨factor, _, checked⟩ := exists_of_bind_eq_ok checked
  obtain ⟨limit, _, checked⟩ := exists_of_bind_eq_ok checked
  exact passed_of_checkMeasure checked

theorem passed_of_checkSpeed {told : Bool × ValidationDetail} (checked : inspection.checkSpeed = .ok told) :
    told.2.passed = told.1 := by
  obtain ⟨factor, _, checked⟩ := exists_of_bind_eq_ok checked
  obtain ⟨floor, _, checked⟩ := exists_of_bind_eq_ok checked
  exact passed_of_checkMeasure checked

theorem isExact_form {room : Room} {findings : Findings} (found : inspection.form room = .ok findings) :
    findings.IsExact := by
  obtain ⟨verdicts, read, found⟩ := exists_of_bind_eq_ok found
  obtain rfl := Except.ok.inj found
  rw [(forall₂_of_mapM_ok read).length_eq]
  exact Findings.isExact_of_map (fun verdict : String × Verdict => passed_documentDetail verdict.1 verdict.2) _ _

/-- The speed is counted behind the costs. -/
theorem isExact_performance {findings : Findings} (found : inspection.performance = .ok findings) :
    findings.IsExact := by
  obtain ⟨measured, costly, found⟩ := exists_of_bind_eq_ok found
  obtain ⟨last, speedy, found⟩ := exists_of_bind_eq_ok found
  obtain rfl := Except.ok.inj found
  have costly := ok_of_mapError costly
  have agrees : ∀ told ∈ measured, told.1 = told.2.passed := by
    intro told member
    obtain ⟨metric, _, checked⟩ := exists_of_mem_mapM_ok costly member
    exact (passed_of_checkCost checked).symm
  have counts : measured.countP (·.1) = measured.countP (·.2.passed) :=
    List.countP_congr fun told member => by rw [agrees told member]
  constructor
  · simp only [List.length_append, List.length_map, List.length_singleton, (forall₂_of_mapM_ok costly).length_eq]
  · simp only [List.countP_append, List.countP_map, List.countP_singleton, counts,
      passed_of_checkSpeed (ok_of_mapError speedy), Function.comp_def]

theorem isExact_findings {room : Room} {axis : Axis} {findings : Findings}
    (found : inspection.findings room axis = .ok findings) : findings.IsExact := by
  cases axis with
  | syntactic => exact isExact_form found
  | semantics =>
    obtain rfl := Except.ok.inj found
    exact Findings.isExact_of_flatMap (fun entity => passed_fieldDetail entity _) _ _
  | businessLogic =>
    obtain rfl := Except.ok.inj found
    exact Findings.isExact_of_flatMap (fun flow => passed_stepDetail flow _) _ _
  | platformCompliance =>
    obtain rfl := Except.ok.inj found
    exact Findings.isExact_of_map (passed_capabilityDetail _ _) _ _
  | performance => exact isExact_performance found
  | security =>
    obtain rfl := Except.ok.inj found
    exact Findings.isExact_of_map (passed_ruleDetail _) _ _

end Inspection

theorem Axis.label_injective : Function.Injective (label : Axis → String) := by
  intro axis other same
  cases axis <;> cases other <;> first | rfl | exact absurd same (by decide)

/-- The outcome of an axis bears its name, whether its check breaks down or not. -/
theorem Axis.name_settle (room : Room) (axis : Axis) (inspection : Inspection) :
    ((axis.check room).settle inspection).axis = label axis := by
  cases found : inspection.findings room axis with
  | error fault =>
    simp only [Check.settle, Axis.check, Inspection.check, found, Except.map, Except.mapError, Check.faulted]
  | ok findings =>
    simp only [Check.settle, Axis.check, Inspection.check, found, Except.map, Except.mapError, Findings.outcome,
      AxisOutcome.judge]

/-- The outcome of an axis whose check does not break down is that of what the check found. -/
theorem Axis.run_eq_ok_iff {room : Room} {axis : Axis} {inspection : Inspection} {outcome : AxisOutcome} :
    (axis.check room).run inspection = .ok outcome ↔
      ∃ findings, inspection.findings room axis = .ok findings ∧ outcome = findings.outcome (label axis) := by
  simp only [Axis.check, Inspection.check]
  cases inspection.findings room axis with
  | error fault => simp [Except.map, Except.mapError]
  | ok findings => simp [Except.map, Except.mapError, eq_comm]

/-- The outcome of a check on what it looks at: its own, or that it broke down. -/
inductive Check.Settles (inspection : Inspection) (check : Check) : AxisOutcome → Prop
  | runs {outcome : AxisOutcome} (ok : check.run inspection = .ok outcome) : Settles inspection check outcome
  | breaks {outcome : AxisOutcome} {error : CheckError} (broken : check.run inspection = .error error)
      (axis : outcome.axis = check.name) (passed : outcome.passed = false)
      (evidence : outcome.evidence = "validator raised " ++ error.kind ++ ": " ++ error.message)
      (details : outcome.details = [.critical inspection.target.id error.message]) : Settles inspection check outcome

theorem Check.settles_settle (check : Check) (inspection : Inspection) :
    check.Settles inspection (check.settle inspection) := by
  cases ran : check.run inspection with
  | ok outcome =>
    have settled : check.settle inspection = outcome := by simp only [settle, ran]
    exact settled ▸ .runs ran
  | error error =>
    have settled : check.settle inspection = check.faulted inspection.target.id error := by simp only [settle, ran]
    exact settled ▸ .breaks ran rfl rfl rfl rfl

theorem Check.isFloat_settle (check : Check) (inspection : Inspection) :
    (check.settle inspection).confidence.isFloat = true := by
  cases check.settles_settle inspection with
  | runs ok => exact Number.isFloat_iff.mpr (check.confident _ _ ok)
  | breaks broken => simp only [settle, broken, faulted, Number.isFloat]

namespace Validator

variable {spec : Specification} {target : Target} {result : GenerationResult}

theorem axes_judge (checks : List Check) (tolerance : Number) (success : result.success = true) :
    (judge checks tolerance spec target result).axes = checks.map (·.settle ⟨spec, target, result, tolerance⟩) := by
  rw [judge, success, Bool.not_true, if_neg Bool.false_ne_true]

/-- Each check is settled by itself. -/
theorem forall₂_settles (checks : List Check) (tolerance : Number) (success : result.success = true) :
    List.Forall₂ (Check.Settles ⟨spec, target, result, tolerance⟩) checks
      (judge checks tolerance spec target result).axes := by
  rw [axes_judge checks tolerance success]
  exact List.forall₂_map_right_iff.mpr (List.forall₂_same.mpr fun check _ => check.settles_settle _)

theorem exists_confidence (checks : List Check) (tolerance : Number) (success : result.success = true) :
    ∃ value, (judge checks tolerance spec target result).confidence = .ok value := by
  refine Number.exists_mean fun number member => ?_
  rw [axes_judge checks tolerance success, List.map_map] at member
  obtain ⟨check, _, rfl⟩ := List.mem_map.mp member
  exact check.isFloat_settle _

theorem axes_validate (validator : Validator) (spec : Specification) (target : Target)
    {result : GenerationResult} (success : result.success = true) :
    (validator.validate spec target result).axes =
      validator.axes.map fun axis =>
        (axis.check validator.room).settle ⟨spec, target, result, validator.tolerance⟩ := by
  rw [validate, axes_judge _ _ success, List.map_map]
  rfl

end Validator

/-- The names of the axes that a validation tells of. -/
def ValidationOutcome.names (outcome : ValidationOutcome) : List String := outcome.axes.map (·.axis)

theorem ValidationOutcome.names_failed (result : GenerationResult) (axes : List String) :
    (failed result axes).names = axes := by
  simp [names, failed, Function.comp_def]

namespace Validator

/-- The validator tells of its own axes, whether the result failed, a check breaks down, or not. -/
theorem names_validate (validator : Validator) (spec : Specification) (target : Target)
    (result : GenerationResult) : (validator.validate spec target result).names = validator.axes.map label := by
  cases success : result.success with
  | false =>
    rw [validate, judge, success, Bool.not_false, if_pos rfl, List.map_map]
    exact ValidationOutcome.names_failed ..
  | true =>
    rw [ValidationOutcome.names, axes_validate validator spec target success, List.map_map]
    exact List.map_congr_left fun axis _ => axis.name_settle _ _

/-- What validation finds in a result that was generated, whatever was made of it since. The check of an axis counts
as many subjects as it gives details, and as many in order as details that passed, so its axis passes exactly when all
that was counted is in order. Whatever the checks, there is one outcome for each, in their order, with a confidence: its
own outcome where the check runs, a failed one where it breaks down. What comes of a check depends on no other. -/
theorem validate_counts_details (room : Room) (spec : Specification) (target : Target) (tolerance : Number)
    {result : GenerationResult} (success : result.success = true) :
    (∀ axis outcome, (Axis.check room axis).run ⟨spec, target, result, tolerance⟩ = .ok outcome →
      ∃ findings, Inspection.findings room ⟨spec, target, result, tolerance⟩ axis = .ok findings ∧
        outcome = findings.outcome (label axis) ∧ outcome.details = findings.details ∧
        findings.checked = outcome.details.length ∧ findings.satisfied = outcome.details.countP (·.passed) ∧
        (outcome.passed = true ↔ findings.satisfied = findings.checked)) ∧
    (∀ checks, List.Forall₂ (Check.Settles ⟨spec, target, result, tolerance⟩) checks
        (judge checks tolerance spec target result).axes ∧
      ∃ value, (judge checks tolerance spec target result).confidence = .ok value) ∧
    ∀ before check after, (judge (before ++ check :: after) tolerance spec target result).axes =
      (judge before tolerance spec target result).axes ++ (judge [check] tolerance spec target result).axes ++
        (judge after tolerance spec target result).axes := by
  refine ⟨fun axis outcome ran => ?_, fun checks => ⟨forall₂_settles checks tolerance success,
    exists_confidence checks tolerance success⟩, fun before check after => ?_⟩
  · obtain ⟨findings, found, rfl⟩ := Axis.run_eq_ok_iff.mp ran
    have exact := Inspection.isExact_findings found
    exact ⟨findings, found, rfl, rfl, exact.checked, exact.satisfied, exact.passed_iff _⟩
  · simp only [axes_judge _ tolerance success, List.map_append, List.map_cons, List.map_nil, List.append_assoc,
      List.singleton_append]

/-- An entity with two fields and a flow with two steps. -/
def blottedShop : Specification where
  metadata := { name := "shop" }
  entities := [{ id := "item", name := "Item", fields := [
    { id := "code", name := "Code", type := .string }, { id := "day", name := "Day", type := .date }] }]
  flows := [{ id := "sell", name := "Sell", steps := [
    { id := "pay", name := "Pay", type := .form }, { id := "ship", name := "Ship", type := .apiCall }] }]

/-- A result with one field and one step of two, whose failure was taken back. One file cannot even be read. -/
def blottedResult : GenerationResult :=
  { GenerationResult.failed blottedShop Catalog.backendPython ⟨.generationError, "", []⟩ "x" 1 with
    success := true
    output := { files := [
      { path := "item.py", kind := .model, language := "python", framework := "fastapi", content := "code\x00"
        source := "", template := "", contracts := [⟨.dataModels, "entity:item",
          [{ name := "code", family := some .string, required := false, nativeType := "str" }]⟩] },
      { path := "sell.py", kind := .page, language := "python", framework := "fastapi", content := "handle_pay = 1"
        source := "", template := "", contracts := [⟨.businessLogic, "flow:sell",
          [{ name := "handle_pay", required := true, nativeType := "form" }]⟩] }] } }

theorem validate_counts_details_blotted :
    blottedResult.success = true ∧
      ∃ form fields steps, (judge [Axis.check {} .syntactic, Axis.check {} .semantics, Axis.check {} .businessLogic]
          (.float 0.5) blottedShop Catalog.backendPython blottedResult).axes = [form, fields, steps] ∧
        form.evidence = "validator raised ValueError: source code string cannot contain null bytes" ∧
        form.passed = false ∧
        fields.details.map (·.passed) = [true, false] ∧ fields.passed = false ∧
        steps.details.map (·.passed) = [true, false] ∧ steps.passed = false := by
  obtain ⟨counts, settled, _⟩ := validate_counts_details {} blottedShop Catalog.backendPython (.float 0.5)
    (show blottedResult.success = true from rfl)
  obtain ⟨form, later, broke, others, shape⟩ := List.forall₂_cons_left_iff.mp
    (settled [Axis.check {} .syntactic, Axis.check {} .semantics, Axis.check {} .businessLogic]).1
  obtain ⟨fields, last, kept, rest, rfl⟩ := List.forall₂_cons_left_iff.mp others
  obtain ⟨steps, none, handled, nothing, rfl⟩ := List.forall₂_cons_left_iff.mp rest
  obtain rfl := List.forall₂_nil_left_iff.mp nothing
  have broken : form.evidence = "validator raised ValueError: source code string cannot contain null bytes" ∧
      form.passed = false := by
    cases broke with
    | runs ok => exact nomatch ok
    | breaks broken _ passed evidence => exact ⟨evidence.trans (Except.error.inj broken ▸ rfl), passed⟩
  have half : fields.details.map (·.passed) = [true, false] ∧ fields.passed = false := by
    cases kept with
    | breaks broken => exact nomatch broken
    | runs ok =>
      obtain ⟨findings, found, _, details, _, _, passes⟩ := counts .semantics fields ok
      obtain rfl := Except.ok.inj found
      exact ⟨by rw [details]; decide, Bool.eq_false_iff.mpr (passes.not.mpr (by decide))⟩
  cases handled with
  | breaks broken => exact nomatch broken
  | runs ok =>
    obtain ⟨findings, found, _, details, _, _, passes⟩ := counts .businessLogic steps ok
    obtain rfl := Except.ok.inj found
    exact ⟨rfl, form, fields, steps, shape, broken.1, broken.2, half.1, half.2, by rw [details]; decide,
      Bool.eq_false_iff.mpr (passes.not.mpr (by decide))⟩

end Validator

end Prism
