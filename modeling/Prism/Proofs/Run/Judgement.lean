import Prism.Proofs.Lookup
import Prism.Proofs.Run.Verdict

namespace Prism

open Run

namespace Run

theorem isPossible_validationRules {α : Type} (possible : Nat → α → Prop) (settings : CompilerSettings)
    (deadline : Option Number) (generation : Phase Slot) :
    (validationRules settings deadline generation : Rules α).IsPossible possible :=
  fun value skipped => absurd skipped (by simp [validationRules])

theorem results_of_conclude {registry : Registry} {spec : Specification} {targets : List Target} {slots : List Slot}
    {interruption : Option ErrorKind} {outcome : RunOutcome}
    (concluded : conclude registry spec targets slots interruption = .ok outcome) :
    outcome.results = results slots := by
  obtain ⟨consistency, _, concluded⟩ := exists_of_bind_eq_ok concluded
  obtain ⟨optimization, _, concluded⟩ := exists_of_bind_eq_ok concluded
  obtain rfl := Except.ok.inj concluded
  rfl

end Run

/-- The results all have validations that tell of these axes, in this order. -/
def RunOutcome.IsJudgedAlong (axes : List Axis) (outcome : RunOutcome) : Prop :=
  ∀ result ∈ outcome.results, ∃ validation, result.validation = some validation ∧ validation.names = axes.map label

/-- A call of the generator that gives a result leaves its validation open. -/
def Attempt.IsUnvalidated : Attempt → Prop
  | .produced result => result.validation = none
  | .transient _ | .failed _ _ => True

theorem Attempt.isUnvalidated_ofGeneration {source : TemplateSource} {spec : Specification} {target : Target} :
    (Attempt.ofGeneration (Generator.generate source spec target)).IsUnvalidated := by
  cases given : Attempt.ofGeneration (Generator.generate source spec target) with
  | produced result =>
    rcases Generator.generate_cases (generated_of_produced given) with rfl | ⟨rendered, _, assembled⟩
    · rfl
    · exact assembled.validation
  | transient message => trivial
  | failed kind message => trivial

/-- The results that a script puts in place of those of the generator are open to validation. -/
def Run.Script.IsUnvalidated {ε : Type} (script : Script ε) : Prop :=
  ∀ id, ∀ disturbance ∈ script.generate id, ∀ attempt, disturbance.failure = some attempt → attempt.IsUnvalidated

namespace Compiler

variable {compiler : Compiler} {spec : Specification} {targets : List Target} {history : History}

theorem Tries.validation_eq_none {target : Target} {result : GenerationResult}
    (tries : compiler.Tries (fun _ => Attempt.IsUnvalidated) spec target (some result)) : result.validation = none := by
  obtain ⟨call, halted, trial, unvalidated, run, same⟩ := tries
  obtain rfl := Option.some.inj same
  rcases Trial.result_cases run with ⟨number, given, produced, same⟩ | ⟨error, number, same⟩
  · have own := unvalidated number
    rw [produced] at own
    rw [same]
    exact own
  · rw [same]
    rfl

/-- Whatever generation leaves is still to be validated. -/
theorem validation_eq_none_of_slotsAfter
    (allowed : compiler.Allows (fun _ => Attempt.IsUnvalidated) spec targets history)
    {index : Nat} {target : Target} {result : GenerationResult} (place : targets[index]? = some target)
    (filled : (compiler.slotsOf spec targets history)[index]? = some (some result)) : result.validation = none := by
  have sound : (compiler.generationOf targets history).IsPossible fun index slot =>
      ∀ target result, targets[index]? = some target → slot = some result → result.validation = none := by
    refine (isOpening_generationStart ..).isPossible.replay (.inl ?_) fun event member => ?_
    · rintro slot skipped index target result _ rfl
      exact absurd skipped (by simp [generationRules])
    · have can := allowed.generating event member
      cases event with
      | finish index slot =>
        rintro target result place rfl
        exact (can target place).validation_eq_none
      | cancel | advance | start | check | expire | gather | release => trivial
  rcases generatedSlots_cases place filled with collected | rfl
  · exact sound.collected index _ collected target result place rfl
  · rfl

/-- The results in the end are those that validation completed. -/
theorem mem_results_validatedSlots {settings : CompilerSettings} {slots : List Slot}
    {settlements : List (Nat × Settlement ValidationOutcome)} {result : GenerationResult} :
    result ∈ results (validatedSlots settings targets slots settlements) ↔
      ∃ index target before, targets[index]? = some target ∧ slots[index]? = some (some before) ∧
        validatedSlot (budget settings) target (some before) (settlements.lookup index) = some result := by
  rw [results, List.mem_filterMap]
  constructor
  · rintro ⟨slot, member, rfl⟩
    obtain ⟨⟨⟨target, before⟩, index⟩, inside, kept⟩ := List.mem_map.mp member
    obtain ⟨place, filled⟩ := List.getElem?_zip_eq_some.mp (List.mem_zipIdx_iff_getElem?.mp inside)
    obtain ⟨before, rfl, _⟩ := Option.bind_eq_some_iff.mp kept
    exact ⟨index, target, before, place, filled, kept⟩
  · rintro ⟨index, target, before, place, filled, kept⟩
    have inside : ((target, some before), index) ∈ (targets.zip slots).zipIdx :=
      List.mem_zipIdx_iff_getElem?.mpr (List.getElem?_zip_eq_some.mpr ⟨place, filled⟩)
    exact ⟨some result, List.mem_map.mpr ⟨_, inside, kept⟩, rfl⟩

theorem exists_of_validationStart_waiting {α : Type} {generation : Phase Slot} {slots : List Slot} {index : Nat}
    (waiting : (validationStart generation slots : Phase α).tasks[index]? = some .waiting) :
    ∃ result, slots[index]? = some (some result) := by
  rw [validationStart, List.getElem?_map, Option.map_eq_some_iff] at waiting
  obtain ⟨slot, found, given⟩ := waiting
  cases slot with
  | none => exact absurd given (by simp)
  | some result => exact ⟨result, found⟩

/-- A run that is done is one over the targets that were selected. -/
theorem rehearse_of_compile {ε : Type} {compiler : Compiler} {spec : Specification} {ids : List String}
    {targets : List Target} {script : Script ε} {record : RunRecord}
    (selected : compiler.registry.orBuiltin.select (compiler.wanted ids) = .ok targets)
    (run : compiler.compile spec ids script = .ok record) (done : record.outcome.state = .done) :
    compiler.rehearse spec targets script = .ok record := by
  rw [compile] at run
  split at run
  · obtain rfl := Except.ok.inj run
    exact absurd done (by simp [refused, RunOutcome.failed])
  · obtain ⟨chosen, found, run⟩ := exists_of_bind_eq_ok run
    obtain rfl := Except.ok.inj (selected.symm.trans (ok_of_mapError found))
    cases limit : spec.fingerprintLimit? compiler.room with
    | none => simpa only [limit] using run
    | some met => simp only [limit, reduceCtorEq] at run

/-- Of a history: results are judged along the axes of the validator unless it leaves axes out and a task of
validation expires. -/
theorem isJudgedAlong_iff (allowed : compiler.Allows (fun _ => Attempt.IsUnvalidated) spec targets history)
    {outcome : RunOutcome} (concluded : compiler.outcomeOf spec targets history = .ok outcome) :
    outcome.IsJudgedAlong compiler.validator.axes ↔ compiler.validator.axes = Axis.all ∨
      ∀ index, (index, .expired) ∉ (compiler.validationOf spec targets history).settlements := by
  have opening := isOpening_validationStart (α := ValidationOutcome) (compiler.generationOf targets history)
    (compiler.slotsOf spec targets history)
  have validated : (compiler.validationOf spec targets history).IsPossible
      (CanValidate compiler.validator spec targets (compiler.slotsOf spec targets history)) :=
    opening.isPossible.replay (.inl (isPossible_validationRules _ compiler.settings _ _)) allowed.validating
  rw [RunOutcome.IsJudgedAlong, results_of_conclude concluded]
  constructor
  · intro judged
    by_contra! broken
    obtain ⟨narrow, index, expired⟩ := broken
    -- the task that expired was handed in, so it has a result, and its validation tells of all axes
    have submitted := (Phase.settlesOnce_of_isOpening opening _ history.validating).submitted index .expired expired
    obtain ⟨before, filled⟩ := exists_of_validationStart_waiting submitted
    have bound : index < targets.length := by simpa using (List.getElem?_eq_some_iff.mp filled).1
    have found := lookup_of_mem (compiler.isOrderly_validationOf spec targets history).once expired
    have late : overdue (budget compiler.settings) targets[index] before ∈ results
        (validatedSlots compiler.settings targets (compiler.slotsOf spec targets history)
          (compiler.validationOf spec targets history).settlements) := by
      refine mem_results_validatedSlots.mpr ⟨index, _, before, List.getElem?_eq_getElem bound, filled, ?_⟩
      rw [found]
      rfl
    obtain ⟨validation, given, names⟩ := judged _ late
    obtain rfl := Option.some.inj given
    rw [ValidationOutcome.names_failed] at names
    exact narrow (Axis.label_injective.list_map names).symm
  · intro well result member
    obtain ⟨index, target, before, place, filled, kept⟩ := mem_results_validatedSlots.mp member
    simp only [validatedSlot, Option.bind_some] at kept
    split at kept
    · next outcome found =>
      obtain rfl := Option.some.inj kept
      refine ⟨outcome, rfl, ?_⟩
      rw [validated.collected index outcome (mem_of_lookup found) target before place filled]
      exact Validator.names_validate ..
    · next found =>
      obtain rfl := Option.some.inj kept
      refine ⟨_, rfl, ?_⟩
      rw [well.resolve_right fun never => never index (mem_of_lookup found)]
      exact ValidationOutcome.names_failed ..
    · rw [validation_eq_none_of_slotsAfter allowed place filled] at kept
      exact absurd kept (by simp)

theorem expired_mem_map_iff {α β : Type} (f : Nat → α → β) (phase : Phase α) (index : Nat) :
    (index, .expired) ∈ (phase.map f).settlements ↔ (index, .expired) ∈ phase.settlements := by
  rw [Phase.map, List.mem_map]
  constructor
  · rintro ⟨⟨place, settlement⟩, member, same⟩
    obtain ⟨rfl, same⟩ := Prod.mk.inj same
    cases settlement with
    | collected value => exact absurd same (by simp [Settlement.map])
    | expired => exact member
  · intro member
    exact ⟨_, member, rfl⟩

/-- The results of a run are judged along the axes of the validator exactly when these are all axes or no task of
validation expires: on any number of workers, and on one worker under any script. -/
theorem outcome_judged_along_axes_iff {ε : Type} (compiler : Compiler) (spec : Specification) (targets : List Target) :
    (∀ history outcome, compiler.Allows (fun _ => Attempt.IsUnvalidated) spec targets history →
      compiler.outcomeOf spec targets history = .ok outcome →
      (outcome.IsJudgedAlong compiler.validator.axes ↔ compiler.validator.axes = Axis.all ∨
        ∀ index, (index, .expired) ∉ (compiler.validationOf spec targets history).settlements)) ∧
    ∀ ids (script : Script ε) record, compiler.registry.orBuiltin.select (compiler.wanted ids) = .ok targets →
      script.IsUnvalidated → compiler.compile spec ids script = .ok record → record.outcome.state = .done →
      ∃ generation, compiler.generateAll spec targets script = .ok generation ∧
        (record.outcome.IsJudgedAlong compiler.validator.axes ↔ compiler.validator.axes = Axis.all ∨
          ∀ index, (index, .expired) ∉ (compiler.validateAll spec targets script generation.stage.phase
            (compiler.slotsAfter spec targets generation.stage.phase)).phase.settlements) := by
  refine ⟨fun history outcome allowed concluded => isJudgedAlong_iff allowed concluded, ?_⟩
  intro ids script record selected unvalidated run done
  have calls : AllCalls (fun _ => Attempt.IsUnvalidated) compiler spec targets script :=
    ⟨fun _ _ => Attempt.isUnvalidated_ofGeneration, fun target _ => unvalidated target.id⟩
  obtain ⟨generation, history, generated, plays, concluded⟩ :=
    exists_history calls (rehearse_of_compile selected run done)
  refine ⟨generation, generated, (isJudgedAlong_iff plays.allowed concluded).trans ?_⟩
  simp only [plays.validating, expired_mem_map_iff]

/-- A specification that declares nothing. -/
def bareSpec : Specification := { metadata := { name := "shop" } }

/-- What comes of a task whose generator breaks down. -/
def brokenResult : GenerationResult :=
  .failed bareSpec Catalog.webVue { kind := .generationError, message := "out of memory" } "" 1

/-- A compiler that validates one axis only and grants each task one second. -/
def narrow : Compiler where
  validator := { axes := [.syntactic] }
  settings := { targetTimeout := some 1 }

/-- The generator breaks down, and then validation goes as it may. -/
def brokenHistory (validating : List (Event ValidationOutcome)) : History where
  clock := 0
  cancelled := false
  generating := [.check, .start 0, .finish 0 (some brokenResult), .gather]
  validating

def brokenGeneration : Phase Slot where
  tasks := [.closed]
  mode := .ended
  settlements := [(0, .collected (some brokenResult))]

section Broken

variable (validating : List (Event ValidationOutcome))

theorem generationOf_brokenHistory :
    narrow.generationOf [Catalog.webVue] (brokenHistory validating) = brokenGeneration := rfl

theorem slotsAfter_brokenGeneration :
    narrow.slotsAfter bareSpec [Catalog.webVue] brokenGeneration = [some brokenResult] := rfl

theorem exists_outcomeOf_brokenHistory :
    ∃ outcome, narrow.outcomeOf bareSpec [Catalog.webVue] (brokenHistory validating) = .ok outcome := by
  rw [outcomeOf, outcomeAfter, generationOf_brokenHistory, slotsAfter_brokenGeneration]
  have broken : brokenResult.IsAnalysable :=
    GenerationResult.isAnalysable_failed bareSpec _ "" 1 (by simp [Catalog.targets])
  refine (Run.exists_conclude rfl bareSpec [Catalog.webVue] (fun result member => ?_) _).imp fun _ => And.left
  obtain ⟨index, target, before, _, filled, kept⟩ := mem_results_validatedSlots.mp member
  obtain rfl : before = brokenResult := by simpa using List.mem_of_getElem? filled
  simp only [validatedSlot, Option.bind_some] at kept
  split at kept
  · exact Option.some.inj kept ▸ { broken with }
  · exact Option.some.inj kept ▸ { broken with }
  · split at kept
    · exact Option.some.inj kept ▸ broken
    · exact absurd kept (by simp)

theorem allows_brokenHistory
    (given : ∀ event ∈ validating, event.IsPossible fun _ outcome =>
      outcome = narrow.validator.validate bareSpec Catalog.webVue brokenResult) :
    narrow.Allows (fun _ => Attempt.IsUnvalidated) bareSpec [Catalog.webVue] (brokenHistory validating) where
  generating := by
    simp only [brokenHistory, List.forall_mem_cons, Event.IsPossible]
    refine ⟨trivial, trivial, ?_, by simp⟩
    rintro target here
    obtain rfl := Option.some.inj here
    exact ⟨fun _ => .failed .generationError "out of memory", fun _ => false, _, fun _ => trivial, rfl, rfl⟩
  validating event member := by
    rw [slotsOf, generationOf_brokenHistory, slotsAfter_brokenGeneration]
    have can := given event member
    cases event with
    | finish index outcome =>
      rintro target result here filled
      obtain rfl : target = Catalog.webVue := by simpa using List.mem_of_getElem? here
      obtain rfl : result = brokenResult := by simpa using List.mem_of_getElem? filled
      exact can
    | cancel | advance | start | check | expire | gather | release => trivial

end Broken

/-- Validation that takes no longer than it may. -/
theorem outcome_judged_along_axes_timely :
    ∃ history outcome, narrow.Allows (fun _ => Attempt.IsUnvalidated) bareSpec [Catalog.webVue] history ∧
      narrow.outcomeOf bareSpec [Catalog.webVue] history = .ok outcome ∧ narrow.validator.axes ≠ Axis.all ∧
      outcome.IsJudgedAlong narrow.validator.axes := by
  let validation := narrow.validator.validate bareSpec Catalog.webVue brokenResult
  let validating : List (Event ValidationOutcome) := [.check, .start 0, .finish 0 validation, .gather]
  have allowed := allows_brokenHistory validating (by simp [validating, Event.IsPossible, validation])
  obtain ⟨outcome, concluded⟩ := exists_outcomeOf_brokenHistory validating
  have settled : (narrow.validationOf bareSpec [Catalog.webVue] (brokenHistory validating)).settlements =
      [(0, .collected validation)] := by
    rw [validationOf, generationOf_brokenHistory, slotsAfter_brokenGeneration]
    rfl
  have judged := (@outcome_judged_along_axes_iff Empty narrow bareSpec [Catalog.webVue]).1 _ outcome allowed concluded
  exact ⟨_, outcome, allowed, concluded, by decide, judged.mpr (Or.inr (by simp [settled]))⟩

/-- A task of validation that expires leaves a validation along all axes, not along the one that was chosen. -/
theorem outcome_not_judged_along_axes :
    ∃ history outcome, narrow.Allows (fun _ => Attempt.IsUnvalidated) bareSpec [Catalog.webVue] history ∧
      narrow.outcomeOf bareSpec [Catalog.webVue] history = .ok outcome ∧
      ¬ outcome.IsJudgedAlong narrow.validator.axes := by
  let validating : List (Event ValidationOutcome) := [.check, .start 0, .advance 2, .check, .expire 0]
  have allowed := allows_brokenHistory validating (by simp [validating, Event.IsPossible])
  obtain ⟨outcome, concluded⟩ := exists_outcomeOf_brokenHistory validating
  have expired : (narrow.validationOf bareSpec [Catalog.webVue] (brokenHistory validating)).settlements =
      [(0, .expired)] := by
    rw [validationOf, generationOf_brokenHistory, slotsAfter_brokenGeneration]
    rfl
  refine ⟨_, outcome, allowed, concluded, fun judged => ?_⟩
  rcases (isJudgedAlong_iff allowed concluded).mp judged with whole | never
  · exact absurd whole (by decide)
  · exact never 0 (by simp [expired])

end Compiler

end Prism
