import Prism.Proofs.Document.Reordering
import Prism.Proofs.Fingerprint
import Prism.Proofs.Json.Shape
import Prism.Report.Build

namespace Prism

namespace Json

theorem sorted_list_eq_iff {α : Type} {encode : α → Json} {xs ys : List α} :
    (list (xs.map encode)).sorted = (list (ys.map encode)).sorted ↔
      List.Forall₂ (fun x y => (encode x).sorted = (encode y).sorted) xs ys := by
  rw [sorted, sorted, sortedItems_eq_map, sortedItems_eq_map, list.injEq, List.map_map, List.map_map,
    ← List.forall₂_eq_eq_eq, List.forall₂_map_left_iff, List.forall₂_map_right_iff]
  rfl

/-- The text of a mapping tells its entries, and nothing of their order. -/
theorem sorted_mapping_eq_iff {α : Type} {entry : α → String × Json} {entries others : List α}
    (tells : Function.Injective fun item => ((entry item).1, (entry item).2.sorted))
    (distinct : (entries.map fun item => (entry item).1).Nodup) :
    (object (entries.map entry)).sorted = (object (others.map entry)).sorted ↔ entries.Perm others := by
  have shape (items : List α) : sortedMembers (items.map entry) =
      items.map fun item => ((entry item).1, (entry item).2.sorted) := by
    rw [sortedMembers_eq_map, List.map_map]
    rfl
  constructor
  · intro same
    have moved := perm_of_sorted same
    rw [shape, shape] at moved
    exact (List.map_perm_map_iff tells).mp moved
  · intro moved
    rw [sorted, sorted, shape, shape]
    refine congrArg object (mergeSort_key_eq_of_perm ?_ (moved.map _))
    rwa [List.map_map]

@[simp] theorem sorted_float_inj {x y : Float} : (float x).sorted = (float y).sorted ↔ x = y := by simp [sorted]

@[simp] theorem sorted_ofNat_inj {x y : ℕ} : (ofNat x).sorted = (ofNat y).sorted ↔ x = y := by simp [ofNat, sorted]

@[simp] theorem sorted_ofNumber_inj {x y : Number} : (ofNumber x).sorted = (ofNumber y).sorted ↔ x = y := by
  cases x <;> cases y <;> simp [ofNumber, sorted]

theorem IsFaithful.ofOption {α : Type} {encode : α → Json} (faithful : IsFaithful encode)
    (filled : ∀ value, (encode value).isObject = true) : IsFaithful (Json.ofOption encode) := by
  have apart (value : α) : (encode value).sorted ≠ .null := by
    intro null
    have isObject := (isObject_sorted (encode value)).trans (filled value)
    rw [null] at isObject
    exact absurd isObject (by simp [Json.isObject])
  intro x y same
  cases x with
  | none =>
    cases y with
    | none => rfl
    | some y => exact absurd same.symm (apart y)
  | some x =>
    cases y with
    | none => exact absurd same (apart x)
    | some y => rw [faithful same]

end Json

open Json (IsShaped IsFaithful sorted_text_inj sorted_bool_inj sorted_texts_inj sorted_ofNat_inj sorted_ofNumber_inj
  sameValues_of_sorted)

theorem ErrorKind.find?_label (kind : ErrorKind) : Labelled.find? (label kind) = some kind := by
  cases kind <;> rfl

theorem Dimension.find?_label (dimension : Dimension) : Labelled.find? (label dimension) = some dimension := by
  cases dimension <;> rfl

theorem Impact.find?_label (impact : Impact) : Labelled.find? (label impact) = some impact := by
  cases impact <;> rfl

theorem OptimizationCategory.find?_label (category : OptimizationCategory) :
    Labelled.find? (label category) = some category := by
  cases category <;> rfl

attribute [ext] GenerationError Variation SpecificationInfo ReportSummary TargetEvidence ConsistencyMetric
  ConsistencyReport OptimizationMetric OptimizationSummary OptimizationReport ValidationSummary EvidenceReport

theorem GenerationError.isFaithful_toJson : IsFaithful GenerationError.toJson := by
  intro x y same
  simpa [GenerationError.ext_iff, label_inj ErrorKind.find?_label] using sameValues_of_sorted same rfl (by simp)

theorem Variation.isFaithful_toJson : IsFaithful Variation.toJson := by
  intro x y same
  simpa [Variation.ext_iff, label_inj Dimension.find?_label, label_inj Impact.find?_label] using
    sameValues_of_sorted same rfl (by simp)

theorem SpecificationInfo.isFaithful_toJson : IsFaithful SpecificationInfo.toJson := by
  intro x y same
  simpa [SpecificationInfo.ext_iff] using sameValues_of_sorted same rfl (by simp)

theorem ReportSummary.isFaithful_toJson : IsFaithful ReportSummary.toJson := by
  intro x y same
  simpa [ReportSummary.ext_iff] using sameValues_of_sorted same rfl (by simp)

theorem ConsistencyMetric.isFaithful_toJson : IsFaithful ConsistencyMetric.toJson := by
  intro x y same
  simpa [ConsistencyMetric.ext_iff, label_inj Dimension.find?_label, Variation.isFaithful_toJson.list_inj] using
    sameValues_of_sorted same rfl (by simp)

theorem ConsistencyReport.isFaithful_toJson : IsFaithful ConsistencyReport.toJson := by
  intro x y same
  simpa [ConsistencyReport.ext_iff, ConsistencyMetric.isFaithful_toJson.list_inj] using
    sameValues_of_sorted same rfl (by simp)

theorem OptimizationMetric.isFaithful_toJson : IsFaithful OptimizationMetric.toJson := by
  intro x y same
  simpa [OptimizationMetric.ext_iff, label_inj OptimizationCategory.find?_label, label_inj Impact.find?_label] using
    sameValues_of_sorted same rfl (by simp)

theorem OptimizationSummary.isFaithful_toJson : IsFaithful OptimizationSummary.toJson := by
  intro x y same
  simpa [OptimizationSummary.ext_iff] using sameValues_of_sorted same rfl (by simp)

theorem ValidationSummary.isFaithful_toJson : IsFaithful ValidationSummary.toJson := by
  intro x y same
  simpa [ValidationSummary.ext_iff] using sameValues_of_sorted same rfl (by simp)

/-- The same evidence, its scores in any order. -/
structure TargetEvidence.IsSame (evidence other : TargetEvidence) : Prop where
  preservation : evidence.preservation.Perm other.preservation
  rest : { evidence with preservation := other.preservation } = other

/-- The same optimizations, the categories in any order. -/
structure OptimizationReport.IsSame (report other : OptimizationReport) : Prop where
  categories : report.categories.Perm other.categories
  summary : report.summary = other.summary

/-- The same report, the entries of its mappings in any order. -/
structure EvidenceReport.IsSame (report other : EvidenceReport) : Prop where
  targets : List.Forall₂ TargetEvidence.IsSame report.targets other.targets
  optimization : report.optimization.IsSame other.optimization
  rest : { report with targets := other.targets, optimization := other.optimization } = other

/-- The mappings of a report have each key once. -/
structure EvidenceReport.IsKeyed (report : EvidenceReport) : Prop where
  preservation : ∀ evidence ∈ report.targets, (evidence.preservation.map (·.1)).Nodup
  categories : (report.optimization.categories.map (·.1)).Nodup

theorem TargetEvidence.sorted_toJson_eq_iff {evidence other : TargetEvidence}
    (distinct : (evidence.preservation.map (·.1)).Nodup) :
    evidence.toJson.sorted = other.toJson.sorted ↔ evidence.IsSame other := by
  have scores : (Json.object (evidence.preservation.map fun entry => (entry.1, .ofNumber entry.2))).sorted =
      (Json.object (other.preservation.map fun entry => (entry.1, .ofNumber entry.2))).sorted ↔
        evidence.preservation.Perm other.preservation := by
    refine Json.sorted_mapping_eq_iff (fun x y same => ?_) distinct
    exact Prod.ext (Prod.mk.inj same).1 (sorted_ofNumber_inj.mp (Prod.mk.inj same).2)
  constructor
  · intro same
    obtain ⟨targetId, success, files, bytes, variations, passed, preservation, error, highlights, -⟩ :=
      sameValues_of_sorted same rfl (by simp)
    refine ⟨scores.mp preservation, ?_⟩
    exact TargetEvidence.ext (sorted_text_inj.mp targetId) (sorted_bool_inj.mp success) (sorted_ofNat_inj.mp files)
      (sorted_ofNat_inj.mp bytes) (sorted_ofNat_inj.mp variations) (sorted_bool_inj.mp passed) rfl
      (GenerationError.isFaithful_toJson.ofOption (fun _ => rfl) error) (sorted_texts_inj.mp highlights)
  · rintro ⟨moved, rest⟩
    rw [← rest, toJson, toJson, Json.sorted, Json.sorted]
    simp only [Json.sortedMembers, scores.mpr moved]

theorem OptimizationReport.sorted_toJson_eq_iff {report other : OptimizationReport}
    (distinct : (report.categories.map (·.1)).Nodup) :
    report.toJson.sorted = other.toJson.sorted ↔ report.IsSame other := by
  have labels : Function.Injective (label : OptimizationCategory → String) :=
    label_injective OptimizationCategory.find?_label
  have groups : (Json.object (report.categories.map fun entry =>
        (label entry.1, .list (entry.2.map OptimizationMetric.toJson)))).sorted =
      (Json.object (other.categories.map fun entry =>
        (label entry.1, .list (entry.2.map OptimizationMetric.toJson)))).sorted ↔
        report.categories.Perm other.categories := by
    refine Json.sorted_mapping_eq_iff (fun x y same => ?_) ?_
    · obtain ⟨category, metrics⟩ := Prod.mk.inj same
      exact Prod.ext (labels category) (OptimizationMetric.isFaithful_toJson.list_inj.mp metrics)
    · have keys := distinct.map labels
      rwa [List.map_map] at keys
  constructor
  · intro same
    obtain ⟨categories, summary, -⟩ := sameValues_of_sorted same rfl (by simp)
    exact ⟨groups.mp categories, OptimizationSummary.isFaithful_toJson summary⟩
  · rintro ⟨moved, summary⟩
    rw [toJson, toJson, Json.sorted, Json.sorted]
    simp only [Json.sortedMembers, groups.mpr moved, summary]

theorem EvidenceReport.sorted_toJson_eq_iff {report other : EvidenceReport} (keyed : report.IsKeyed) :
    report.toJson.sorted = other.toJson.sorted ↔ report.IsSame other := by
  have targets : (Json.list (report.targets.map TargetEvidence.toJson)).sorted =
      (Json.list (other.targets.map TargetEvidence.toJson)).sorted ↔
        List.Forall₂ TargetEvidence.IsSame report.targets other.targets := by
    rw [Json.sorted_list_eq_iff, List.forall₂_iff_zip, List.forall₂_iff_zip]
    refine and_congr_right fun _ => forall₃_congr fun evidence another paired => ?_
    exact TargetEvidence.sorted_toJson_eq_iff (keyed.preservation evidence (List.of_mem_zip paired).1)
  constructor
  · intro same
    obtain ⟨title, specification, complete, summary, evidence, consistency, optimization, validation, missing,
      conclusions, recommendations, -⟩ := sameValues_of_sorted same rfl (by simp)
    refine ⟨targets.mp evidence, (OptimizationReport.sorted_toJson_eq_iff keyed.categories).mp optimization, ?_⟩
    exact EvidenceReport.ext (sorted_text_inj.mp title) (SpecificationInfo.isFaithful_toJson specification)
      (sorted_bool_inj.mp complete) (ReportSummary.isFaithful_toJson summary) rfl
      (ConsistencyReport.isFaithful_toJson consistency) rfl (ValidationSummary.isFaithful_toJson.list_inj.mp validation)
      (sorted_texts_inj.mp missing) (sorted_texts_inj.mp conclusions) (sorted_texts_inj.mp recommendations)
  · rintro ⟨evidence, optimization, rest⟩
    rw [← rest, toJson, toJson, Json.sorted, Json.sorted]
    simp only [Json.sortedMembers, targets.mpr evidence,
      (OptimizationReport.sorted_toJson_eq_iff keyed.categories).mpr optimization]

section Shapes

variable (depth : ℕ)

theorem GenerationError.isShaped_toJson (error : GenerationError) : IsShaped (depth + 2) error.toJson :=
  .object (by simp) (by simp)

theorem Variation.isShaped_toJson (variation : Variation) : IsShaped (depth + 1) variation.toJson :=
  .object (by simp) (by simp)

theorem SpecificationInfo.isShaped_toJson (info : SpecificationInfo) : IsShaped (depth + 1) info.toJson :=
  .object (by simp) (by simp)

theorem ReportSummary.isShaped_toJson (summary : ReportSummary) : IsShaped (depth + 1) summary.toJson :=
  .object (by simp) (by simp)

theorem TargetEvidence.isShaped_toJson {evidence : TargetEvidence}
    (distinct : (evidence.preservation.map (·.1)).Nodup) : IsShaped (depth + 3) evidence.toJson := by
  have scores : IsShaped (depth + 2)
      (.object (evidence.preservation.map fun entry => (entry.1, .ofNumber entry.2))) := by
    refine .object (by rwa [List.map_map]) (List.forall_mem_map.mpr fun _ _ => ?_)
    exact Json.isShaped_ofNumber _ _
  have error := Json.isShaped_ofOption (depth + 2) (GenerationError.isShaped_toJson depth) evidence.error
  exact .object (by simp) (by simp [scores, error])

theorem ConsistencyMetric.isShaped_toJson (metric : ConsistencyMetric) : IsShaped (depth + 3) metric.toJson := by
  have variations : IsShaped (depth + 2) (.list (metric.variations.map Variation.toJson)) :=
    .list (List.forall_mem_map.mpr fun variation _ => variation.isShaped_toJson depth)
  exact .object (by simp) (by simp [variations])

theorem ConsistencyReport.isShaped_toJson (report : ConsistencyReport) : IsShaped (depth + 5) report.toJson := by
  have metrics : IsShaped (depth + 4) (.list (report.metrics.map ConsistencyMetric.toJson)) :=
    .list (List.forall_mem_map.mpr fun metric _ => metric.isShaped_toJson depth)
  exact .object (by simp) (by simp [metrics])

theorem OptimizationMetric.isShaped_toJson (metric : OptimizationMetric) : IsShaped (depth + 1) metric.toJson :=
  .object (by simp) (by simp)

theorem OptimizationSummary.isShaped_toJson (summary : OptimizationSummary) : IsShaped (depth + 2) summary.toJson :=
  .object (by simp) (by simp [Json.isShaped_ofOption])

theorem OptimizationReport.isShaped_toJson {report : OptimizationReport}
    (distinct : (report.categories.map (·.1)).Nodup) : IsShaped (depth + 4) report.toJson := by
  have groups : IsShaped (depth + 3) (.object (report.categories.map fun entry =>
      (label entry.1, .list (entry.2.map OptimizationMetric.toJson)))) := by
    refine .object ?_ (List.forall_mem_map.mpr fun _ _ => ?_)
    · have keys := distinct.map (label_injective OptimizationCategory.find?_label)
      rwa [List.map_map] at keys ⊢
    · exact .list (List.forall_mem_map.mpr fun metric _ => metric.isShaped_toJson depth)
  exact .object (by simp) (by simp [groups, report.summary.isShaped_toJson])

theorem ValidationSummary.isShaped_toJson (summary : ValidationSummary) : IsShaped (depth + 2) summary.toJson :=
  .object (by simp) (by simp)

theorem EvidenceReport.isShaped_toJson {report : EvidenceReport} (keyed : report.IsKeyed) :
    IsShaped (depth + 6) report.toJson := by
  have targets : IsShaped (depth + 5) (.list (report.targets.map TargetEvidence.toJson)) :=
    .list (List.forall_mem_map.mpr fun evidence member =>
      TargetEvidence.isShaped_toJson (depth + 1) (keyed.preservation evidence member))
  have validation : IsShaped (depth + 5) (.list (report.validation.map ValidationSummary.toJson)) :=
    .list (List.forall_mem_map.mpr fun summary _ => summary.isShaped_toJson (depth + 2))
  have optimization := OptimizationReport.isShaped_toJson (depth + 1) keyed.categories
  exact .object (by simp) (by simp [targets, validation, optimization, report.specification.isShaped_toJson,
    report.summary.isShaped_toJson, report.consistency.isShaped_toJson])

end Shapes

namespace EvidenceReport

/-- What is built from results has each key once. -/
theorem isKeyed_build (spec : Specification) {registry : Registry} {results : List GenerationResult}
    (consistency : ConsistencyReport) {optimization : OptimizationReport}
    (analyzed : OptimizationReport.analyze registry results = .ok optimization)
    (validation : List ValidationSummary) (missing : List String) (title : Option String) :
    (build spec results consistency optimization validation missing title).IsKeyed where
  preservation := List.forall_mem_map.mpr fun result _ => by simp [targetEvidence]
  categories := by
    obtain ⟨_, -, analyzed⟩ := exists_of_bind_eq_ok analyzed
    obtain ⟨_, -, analyzed⟩ := exists_of_bind_eq_ok analyzed
    obtain rfl := Except.ok.inj analyzed
    have all : (Labelled.all : List OptimizationCategory).Nodup := by decide
    exact all

theorem jsonText_eq_ok_iff {room : Room} {report : EvidenceReport} {text : String} :
    report.jsonText room = .ok text ↔
      (∀ n ∈ report.toJson.wholes, room.spells n = true) ∧ report.toJson.sorted.pretty = text := by
  rw [← Json.isSpelled_iff, jsonText]
  cases report.toJson.isSpelled room <;> simp

/-- A report on a run that was interrupted after one target had failed. -/
def interrupted : EvidenceReport where
  title := "Evidence for \"Café\"\n\t😀"
  specification := {
    name := "Café", version := "1.0.0", schemaVersion := "1.0", fingerprint := "", entities := 2, flows := 1,
    components := 0, rules := 0 }
  complete := false
  summary := {
    totalTargets := 2, successful := 0, failed := 1, missing := 1, overallConsistency := 0.5,
    overallImprovement := 0.0, validationSuccessRate := 0.0 }
  targets := [{
    targetId := "web-react", success := false, files := 0, bytes := 0, variations := 0, validationPassed := false
    preservation := [("traceability", .int 0), ("accuracy", .float 0.25)]
    error := some { kind := .generationError, message := "template failed" } }]
  consistency := {}
  optimization := {
    categories := [(.size, []), (.performance, [])]
    summary := { overallImprovement := 0.0, bestPerforming := none, mostOptimized := none } }
  validation := []
  missingTargets := ["web-vue"]

/-- The same report with its mappings from the end. -/
def turned : EvidenceReport := { interrupted with
  targets := interrupted.targets.map fun evidence => { evidence with preservation := evidence.preservation.reverse }
  optimization := { interrupted.optimization with categories := interrupted.optimization.categories.reverse } }

end EvidenceReport

end Prism
