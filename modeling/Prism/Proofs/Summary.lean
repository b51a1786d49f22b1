import Prism.Proofs.Findings
import Prism.Validation.Summary

namespace Prism

/-- Where each item in question is counted under some key, there are no more of them than are counted in all. -/
theorem countP_le_sum {α κ : Type} {items : List α} {keys : List κ} {asked : α → Bool} {counted : κ → α → Bool}
    (some : ∀ item ∈ items, asked item = true → ∃ key ∈ keys, counted key item = true) :
    items.countP asked ≤ (keys.map fun key => items.countP (counted key)).sum := by
  induction keys generalizing asked with
  | nil =>
    have none : items.countP asked = 0 := List.countP_eq_zero.mpr fun item member is => by
      obtain ⟨key, listed, _⟩ := some item member is
      exact absurd listed List.not_mem_nil
    omega
  | cons key keys ih =>
    -- what is counted under the first key is left to it
    have rest := @ih (fun item => asked item && !counted key item) fun item member left => by
      rw [Bool.and_eq_true, Bool.not_eq_true'] at left
      obtain ⟨other, listed, counts⟩ := some item member left.1
      rcases List.mem_cons.mp listed with rfl | later
      · exact absurd (counts.symm.trans left.2) (by decide)
      · exact ⟨other, later, counts⟩
    have split : items.countP asked ≤
        items.countP (counted key) + items.countP fun item => asked item && !counted key item := by
      clear rest some ih
      induction items with
      | nil => exact Nat.zero_le _
      | cons item items ih =>
        simp only [List.countP_cons]
        cases asked item <;> cases counted key item <;> simp <;> omega
    rw [List.map_cons, List.sum_cons]
    omega

namespace ValidationOutcome

/-- An axis of a validation has this verdict. -/
def Judges (validation : ValidationOutcome) (axis : Axis) (passed : Bool) : Prop :=
  ∃ outcome ∈ validation.axes, outcome.axis = label axis ∧ outcome.passed = passed

/-- Whether the outcome that is found for an axis has this verdict. -/
def counts (axis : Axis) (passed : Bool) (validation : ValidationOutcome) : Bool :=
  (validation.axis? (label axis)).any fun outcome => outcome.passed == passed

variable {validation : ValidationOutcome} {axes : List Axis}

/-- Where axes are told of once, the outcome that is found is the only one. -/
theorem counts_iff (told : validation.names = axes.map label) (distinct : axes.Nodup) {axis : Axis} {passed : Bool} :
    counts axis passed validation = true ↔ validation.Judges axis passed := by
  have nodup : validation.names.Nodup := told ▸ distinct.map Axis.label_injective
  rw [counts, Option.any_eq_true, Judges]
  constructor
  · rintro ⟨outcome, found, verdict⟩
    exact ⟨outcome, List.mem_of_find?_eq_some found, by simpa using List.find?_some found, by simpa using verdict⟩
  · rintro ⟨outcome, member, named, verdict⟩
    refine ⟨outcome, ?_, by simpa using verdict⟩
    rw [axis?, ← named]
    exact find?_of_nodup nodup member

theorem exists_judges_iff (told : validation.names = axes.map label) {axis : Axis} :
    (∃ passed, validation.Judges axis passed) ↔ axis ∈ axes := by
  have named : (∃ passed, validation.Judges axis passed) ↔ label axis ∈ validation.names := by
    rw [names, List.mem_map]
    constructor
    · rintro ⟨_, outcome, member, same, _⟩
      exact ⟨outcome, member, same⟩
    · rintro ⟨outcome, member, same⟩
      exact ⟨_, outcome, member, same, rfl⟩
  rw [named, told, List.mem_map_of_injective Axis.label_injective]

/-- On an axis that is told of, a result passes or fails. -/
theorem counts_false (told : validation.names = axes.map label) {axis : Axis} (enabled : axis ∈ axes) :
    counts axis false validation = !counts axis true validation := by
  obtain ⟨_, outcome, member, named, _⟩ := (exists_judges_iff told).mpr enabled
  obtain ⟨found, _, _, search⟩ := @exists_find? _ AxisOutcome.axis _ _ member
  rw [named] at search
  rw [counts, counts, axis?, search, Option.any_some, Option.any_some]
  cases found.passed <;> rfl

/-- A validation along some axes fails exactly when it fails one of them. -/
theorem passed_eq_false_iff (told : validation.names = axes.map label) (some : axes ≠ []) :
    validation.passed = false ↔ ∃ axis ∈ axes, validation.Judges axis false := by
  have nonempty : validation.axes.isEmpty = false := by
    rw [List.isEmpty_eq_false_iff]
    intro empty
    rw [names, empty, List.map_nil, eq_comm, List.map_eq_nil_iff] at told
    exact some told
  rw [passed, nonempty, Bool.not_false, Bool.true_and, List.all_eq_false]
  constructor
  · rintro ⟨outcome, member, failed⟩
    have named : outcome.axis ∈ axes.map label := told ▸ List.mem_map_of_mem member
    obtain ⟨axis, listed, same⟩ := List.mem_map.mp named
    exact ⟨axis, listed, outcome, member, same.symm, by simpa using failed⟩
  · rintro ⟨axis, _, outcome, member, _, failed⟩
    exact ⟨outcome, member, by simp [failed]⟩

end ValidationOutcome

/-- Whatever names select axes, these are some, each once. -/
theorem Axis.select_spec {enabled : Option (List String)} {axes : List Axis} (chosen : Axis.select enabled = .ok axes) :
    axes ≠ [] ∧ axes.Nodup := by
  have nodup : Axis.all.Nodup := by decide
  cases enabled with
  | none => exact Except.ok.inj chosen ▸ ⟨by decide, nodup⟩
  | some names =>
    rw [select] at chosen
    split at chosen
    · exact nomatch chosen
    · split at chosen
      · exact nomatch chosen
      · next nonempty =>
        obtain rfl := Except.ok.inj chosen
        refine ⟨?_, nodup.filter _⟩
        obtain ⟨axis, member⟩ := List.exists_mem_of_ne_nil _ fun empty => nonempty (List.isEmpty_iff.mpr empty)
        refine List.ne_nil_of_mem (List.mem_filter.mpr ⟨?_, List.contains_iff_mem.mpr member⟩)
        cases axis <;> decide

/-- The results with their validations, as far as they have one. -/
def validatedOf (results : List GenerationResult) : List (GenerationResult × ValidationOutcome) :=
  results.filterMap fun result => result.validation.map fun validation => (result, validation)

theorem mem_validatedOf_iff {results : List GenerationResult} {pair : GenerationResult × ValidationOutcome} :
    pair ∈ validatedOf results ↔ pair.1 ∈ results ∧ pair.1.validation = some pair.2 := by
  rw [validatedOf, List.mem_filterMap]
  constructor
  · rintro ⟨result, member, given⟩
    obtain ⟨validation, own, rfl⟩ := Option.map_eq_some_iff.mp given
    exact ⟨member, own⟩
  · rintro ⟨member, own⟩
    exact ⟨pair.1, member, by rw [own, Option.map_some]⟩

theorem length_validatedOf (results : List GenerationResult) :
    (validatedOf results).length = results.countP (·.validation.isSome) := by
  rw [validatedOf, List.length_filterMap_eq_countP]
  simp only [Option.isSome_map]

namespace ValidationSummary

open ValidationOutcome

variable {validated : List (GenerationResult × ValidationOutcome)} {axes : List Axis}

theorem passed_ofAxis (validated : List (GenerationResult × ValidationOutcome)) (axis : Axis) :
    (ofAxis validated axis).passed = validated.countP fun pair => counts axis true pair.2 := by
  simp only [ofAxis, List.countP_filterMap]
  refine List.countP_congr fun pair _ => ?_
  rw [counts]
  cases pair.2.axis? (label axis) with
  | none => rfl
  | some outcome => simp

theorem failed_ofAxis (validated : List (GenerationResult × ValidationOutcome)) (axis : Axis) :
    (ofAxis validated axis).failed = validated.countP fun pair => counts axis false pair.2 := by
  simp only [ofAxis, ← List.countP_eq_length_filter, List.countP_filterMap]
  refine List.countP_congr fun pair _ => ?_
  rw [counts]
  cases pair.2.axis? (label axis) with
  | none => rfl
  | some outcome => simp

/-- There is something to do on an axis when a result failed it. -/
theorem recommendations_ofAxis (validated : List (GenerationResult × ValidationOutcome)) (axis : Axis) :
    (ofAxis validated axis).recommendations ≠ [] ↔ 0 < (ofAxis validated axis).failed := by
  simp only [ofAxis, List.isEmpty_iff]
  split
  · next none => simp [none]
  · next some => exact iff_of_true (List.cons_ne_nil _ _) (List.length_pos_iff.mpr some)

section Alike

variable (told : ∀ pair ∈ validated, pair.2.names = axes.map label)
include told

/-- An axis that all validations tell of counts them all. -/
theorem total_ofAxis_of_mem {axis : Axis} (enabled : axis ∈ axes) :
    (ofAxis validated axis).total = validated.length := by
  have parts : (ofAxis validated axis).total = (ofAxis validated axis).passed + (ofAxis validated axis).failed := rfl
  rw [parts, passed_ofAxis, failed_ofAxis, List.length_eq_countP_add_countP fun pair => counts axis true pair.2]
  refine congrArg (_ + ·) (List.countP_congr fun pair member => ?_)
  rw [counts_false (told pair member) enabled]
  simp

theorem total_ofAxis_of_notMem (distinct : axes.Nodup) {axis : Axis} (disabled : axis ∉ axes) :
    (ofAxis validated axis).total = 0 := by
  have none (passed : Bool) : validated.countP (fun pair => counts axis passed pair.2) = 0 := by
    refine List.countP_eq_zero.mpr fun pair member counted => disabled ?_
    have own := told pair member
    exact (exists_judges_iff own).mp ⟨passed, (counts_iff own distinct).mp counted⟩
  have parts : (ofAxis validated axis).total = (ofAxis validated axis).passed + (ofAxis validated axis).failed := rfl
  rw [parts, passed_ofAxis, failed_ofAxis, none, none]

/-- What passes on the whole passes every axis. -/
theorem passed_overall_le (distinct : axes.Nodup) {axis : Axis} (enabled : axis ∈ axes) :
    (overall validated).passed ≤ (ofAxis validated axis).passed := by
  rw [passed_ofAxis]
  refine List.countP_mono_left fun pair member passed => ?_
  have own := told pair member
  by_contra uncounted
  have failed : counts axis false pair.2 = true := by rw [counts_false own enabled]; simpa using uncounted
  have fails := (passed_eq_false_iff own (List.ne_nil_of_mem enabled)).mpr
    ⟨axis, enabled, (counts_iff own distinct).mp failed⟩
  exact absurd (passed.symm.trans fails) (by decide)

/-- What fails on the whole fails some axis. -/
theorem failed_overall_le (distinct : axes.Nodup) (some : axes ≠ []) :
    (overall validated).failed ≤ (axes.map fun axis => (ofAxis validated axis).failed).sum := by
  have whole : (overall validated).failed = validated.countP fun pair => !pair.2.passed := by
    simp only [overall, List.length_map, ← List.countP_eq_length_filter]
  simp only [whole, failed_ofAxis]
  refine countP_le_sum fun pair member failed => ?_
  have own := told pair member
  obtain ⟨axis, enabled, judged⟩ := (passed_eq_false_iff own some).mp (by simpa using failed)
  exact ⟨axis, enabled, (counts_iff own distinct).mpr judged⟩

theorem failed_ofAxis_pos_iff (distinct : axes.Nodup) {axis : Axis} :
    0 < (ofAxis validated axis).failed ↔ ∃ pair ∈ validated, pair.2.Judges axis false := by
  rw [failed_ofAxis, List.countP_pos_iff]
  exact exists_congr fun pair => and_congr_right fun member => counts_iff (told pair member) distinct

end Alike

end ValidationSummary

/-- The result was not validated, or the validator gave its validation, whatever it was shown. -/
def GenerationResult.IsJudgedBy (validator : Validator) (result : GenerationResult) : Prop :=
  result.validation = none ∨ ∃ spec target shown, result.validation = some (validator.validate spec target shown)

/-- The result was validated and failed the axis. -/
def GenerationResult.Fails (axis : Axis) (result : GenerationResult) : Prop :=
  ∃ validation, result.validation = some validation ∧ validation.Judges axis false

namespace ValidationSummary

/-- What the summaries of results count that one validator judged, if any did. There is one for each axis, then the one
over all. An enabled axis counts all results that were validated, any other counts none. The whole passes no more than
each enabled axis, and fails no more than these together. There is something to do on an axis exactly when some result
failed it. -/
theorem all_counts_axes {enabled : Option (List String)} {axes : List Axis} {tolerance : Number} {validator : Validator}
    {results : List GenerationResult} (chosen : Axis.select enabled = .ok axes)
    (made : Validator.make axes tolerance = .ok validator) (judged : ∀ result ∈ results, result.IsJudgedBy validator) :
    ∃ (along : Axis → ValidationSummary) (whole : ValidationSummary),
      all results = Axis.all.map along ++ [whole] ∧ (∀ axis, (along axis).axis = label axis) ∧ whole.axis = "overall" ∧
      (∀ axis ∈ axes, (along axis).total = results.countP (·.validation.isSome)) ∧
      (∀ axis ∉ axes, (along axis).total = 0) ∧
      (∀ axis ∈ axes, whole.passed ≤ (along axis).passed) ∧
      whole.failed ≤ (axes.map fun axis => (along axis).failed).sum ∧
      ∀ axis, (along axis).recommendations ≠ [] ↔ ∃ result ∈ results, result.Fails axis := by
  obtain ⟨some, distinct⟩ := Axis.select_spec chosen
  have own : validator.axes = axes := by
    rw [Validator.make] at made
    split at made
    · exact nomatch made
    · rw [← Except.ok.inj made]
  have told : ∀ pair ∈ validatedOf results, pair.2.names = axes.map label := by
    intro pair member
    obtain ⟨inside, given⟩ := mem_validatedOf_iff.mp member
    rcases judged pair.1 inside with none | ⟨spec, target, shown, validated⟩
    · exact nomatch none.symm.trans given
    · rw [← Option.some.inj (validated.symm.trans given), Validator.names_validate, own]
  refine ⟨ofAxis (validatedOf results), overall (validatedOf results), rfl, fun _ => rfl, rfl,
    fun axis member => ?_, fun axis absent => total_ofAxis_of_notMem told distinct absent,
    fun axis member => passed_overall_le told distinct member, failed_overall_le told distinct some, fun axis => ?_⟩
  · rw [total_ofAxis_of_mem told member, length_validatedOf]
  · rw [recommendations_ofAxis, failed_ofAxis_pos_iff told distinct]
    constructor
    · rintro ⟨pair, member, fails⟩
      obtain ⟨inside, given⟩ := mem_validatedOf_iff.mp member
      exact ⟨pair.1, inside, pair.2, given, fails⟩
    · rintro ⟨result, inside, validation, given, fails⟩
      exact ⟨(result, validation), mem_validatedOf_iff.mpr ⟨inside, given⟩, fails⟩

/-- A validator that leaves out four axes. -/
def narrowValidator : Validator where
  axes := [.businessLogic, .security]
  tolerance := 0

/-- A result of a target that failed, once before it was validated and once after. -/
def refusedResults : List GenerationResult :=
  let failed := GenerationResult.failed { metadata := { name := "shop" } } Catalog.webVue
    ⟨.generationError, "", []⟩ "x" 1
  [failed, { failed with
    validation := some (narrowValidator.validate { metadata := { name := "shop" } } Catalog.webVue failed) }]

theorem all_counts_axes_refused :
    Axis.select (some ["Security", "business-logic"]) = .ok [.businessLogic, .security] ∧
      Validator.make [.businessLogic, .security] 0 = .ok narrowValidator ∧
      ∃ (along : Axis → ValidationSummary) (whole : ValidationSummary),
        all refusedResults = Axis.all.map along ++ [whole] ∧ (along .security).total = 1 ∧
        (along .syntactic).total = 0 ∧ (along .security).recommendations ≠ [] := by
  have chosen : Axis.select (some ["Security", "business-logic"]) = .ok [.businessLogic, .security] := by decide +kernel
  have made : Validator.make [.businessLogic, .security] 0 = .ok narrowValidator := rfl
  have judged : ∀ result ∈ refusedResults, result.IsJudgedBy narrowValidator := by
    intro result member
    simp only [refusedResults, List.mem_cons, List.not_mem_nil, or_false] at member
    rcases member with rfl | rfl
    · exact Or.inl rfl
    · exact Or.inr ⟨_, _, _, rfl⟩
  obtain ⟨along, whole, shape, _, _, counted, uncounted, _, _, todo⟩ := all_counts_axes chosen made judged
  refine ⟨chosen, made, along, whole, shape, counted .security (by decide), uncounted .syntactic (by decide), ?_⟩
  exact (todo .security).mpr ⟨_, List.mem_cons_of_mem _ List.mem_cons_self, _, rfl, _,
    List.mem_cons_of_mem _ List.mem_cons_self, rfl, rfl⟩

end ValidationSummary

end Prism
