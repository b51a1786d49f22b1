import Prism.Proofs.Analysis
import Prism.Proofs.Coverage

namespace Prism

/-- Entries of one dimension that count in the same way, whatever they cover: both apply or neither does, and those
that apply have the same total. -/
structure Coverage.CountsAs (entry other : Coverage) : Prop where
  dimension : entry.dimension = other.dimension
  applicable : entry.applicable = other.applicable
  total : other.applicable = true → entry.total = other.total

/-- A specification has as many elements in a dimension as it declares contracts there. -/
theorem Specification.elementCount_eq (spec : Specification) (dimension : Dimension) :
    spec.elementCount dimension = (spec.contractsIn dimension).length := by
  cases dimension <;> simp [elementCount, contractsIn]

namespace Coverage

theorem CountsAs.refl (entry : Coverage) : entry.CountsAs entry := ⟨rfl, rfl, fun _ => rfl⟩

/-- Whatever a target emits, its coverage counts as that of a target that gave nothing. -/
theorem none_countsAs (spec : Specification) (target : Target) (emitted : List Contract) :
    List.Forall₂ CountsAs (Coverage.none spec target)
      (Comparison.compare target.id (spec.declared target) emitted).coverage := by
  refine List.forall₂_map_left_iff.mpr (List.forall₂_map_right_iff.mpr (List.forall₂_same.mpr fun dimension _ => ?_))
  unfold Specification.declared
  cases target.applies dimension with
  | false => exact ⟨rfl, rfl, fun absent => absurd absent (by simp)⟩
  | true => exact ⟨rfl, rfl, fun _ => congrArg Int.ofNat (spec.elementCount_eq dimension)⟩

/-- The entries of a dimension are both absent, or they count in the same way. -/
theorem find?_countsAs {entries others : List Coverage} (alike : List.Forall₂ CountsAs entries others)
    (dimension : Dimension) :
    (entries.find? (·.dimension = dimension) = Option.none ∧ others.find? (·.dimension = dimension) = Option.none) ∨
      ∃ entry other, entries.find? (·.dimension = dimension) = some entry ∧
        others.find? (·.dimension = dimension) = some other ∧ entry.CountsAs other := by
  induction alike with
  | nil => exact Or.inl ⟨rfl, rfl⟩
  | @cons entry other entries others same later ih =>
    rw [List.find?_cons, List.find?_cons, same.dimension]
    by_cases here : other.dimension = dimension
    · rw [decide_eq_true here]
      exact Or.inr ⟨entry, other, rfl, rfl, same⟩
    · rw [decide_eq_false here]
      exact ih

end Coverage

/-- Results of one target whose coverage counts in the same way. -/
structure GenerationResult.CountsAs (result other : GenerationResult) : Prop where
  targetId : result.targetId = other.targetId
  coverage : List.Forall₂ Coverage.CountsAs result.coverage other.coverage

/-- A result of the generator, whatever its templates, counts as one that failed for the same target. -/
theorem GenerationResult.failed_countsAs {source : TemplateSource} {spec : Specification} {target : Target}
    {result : GenerationResult} (generated : Generator.generate source spec target = .ok result)
    (error : GenerationError) (fingerprint : String) (attempts : Nat) :
    (GenerationResult.failed spec target error fingerprint attempts).CountsAs result := by
  rcases Generator.generate_cases generated with rfl | ⟨rendered, _, assembled⟩
  · exact ⟨rfl, List.forall₂_same.mpr fun entry _ => .refl entry⟩
  · exact ⟨assembled.targetId.symm, assembled.coverage ▸ Coverage.none_countsAs spec target _⟩

namespace ConsistencyReport

/-- The targets that a dimension is averaged over, with the number of contracts that each is measured by. -/
def averaged (dimension : Dimension) (results : List GenerationResult) : List (String × Option Int) :=
  (results.filter (appliesTo dimension)).map fun result =>
    (result.targetId, (result.coverageFor? dimension).map (·.total))

/-- The metric of a dimension names the targets that it averages. -/
theorem applicableTargets_of_measure {results : List GenerationResult} {dimension : Dimension}
    {metric : ConsistencyMetric} (measured : measure results dimension = .ok metric) :
    metric.applicableTargets = (averaged dimension results).map (·.1) := by
  rw [averaged, List.map_map]
  by_cases nowhere : (results.filter (appliesTo dimension)).isEmpty = true
  · obtain rfl := Except.ok.inj ((if_pos nowhere).symm.trans measured)
    rw [List.isEmpty_iff.mp nowhere, List.map_nil]
  · obtain ⟨ratios, _, measured⟩ := exists_of_bind_eq_ok ((if_neg nowhere).symm.trans measured)
    obtain ⟨completeness, _, measured⟩ := exists_of_bind_eq_ok measured
    obtain ⟨accuracy, _, measured⟩ := exists_of_bind_eq_ok measured
    obtain rfl := Except.ok.inj measured
    rfl

theorem averaged_append (dimension : Dimension) (results others : List GenerationResult) :
    averaged dimension (results ++ others) = averaged dimension results ++ averaged dimension others := by
  simp [averaged]

/-- Results that count in the same way are averaged in the same places. -/
theorem averaged_cons {result other : GenerationResult} (alike : result.CountsAs other) (dimension : Dimension)
    (results : List GenerationResult) :
    averaged dimension (result :: results) = averaged dimension (other :: results) := by
  rw [averaged, averaged, List.filter_cons, List.filter_cons]
  rcases Coverage.find?_countsAs alike.coverage dimension with ⟨absent, gone⟩ | ⟨entry, counted, found, there, same⟩
  · simp [appliesTo, GenerationResult.coverageFor?, absent, gone]
  · cases applies : counted.applicable with
    | false => simp [appliesTo, GenerationResult.coverageFor?, found, there, same.applicable, applies]
    | true =>
      simp [appliesTo, GenerationResult.coverageFor?, found, there, same.applicable, applies, alike.targetId,
        same.total applies]

/-- A target that failed is told of the same dimensions, in the same order, as one that was compared, of which the
same apply and have the same totals. Among any results it therefore enters the same averages as a result of the
generator: each dimension is averaged over the same targets, measured by the same numbers of contracts. -/
theorem averages_with_failed (spec : Specification) (target : Target) :
    (∀ emitted, List.Forall₂ Coverage.CountsAs (Coverage.none spec target)
      (Comparison.compare target.id (spec.declared target) emitted).coverage) ∧
    ∀ source result, Generator.generate source spec target = .ok result →
      ∀ error fingerprint attempts dimension before after,
        averaged dimension (before ++ .failed spec target error fingerprint attempts :: after) =
          averaged dimension (before ++ result :: after) ∧
        ∀ metric other,
          measure (before ++ .failed spec target error fingerprint attempts :: after) dimension = .ok metric →
          measure (before ++ result :: after) dimension = .ok other →
          metric.applicableTargets = other.applicableTargets := by
  refine ⟨Coverage.none_countsAs spec target, ?_⟩
  intro source result generated error fingerprint attempts dimension before after
  have same : averaged dimension (before ++ .failed spec target error fingerprint attempts :: after) =
      averaged dimension (before ++ result :: after) := by
    have alike := GenerationResult.failed_countsAs generated error fingerprint attempts
    rw [averaged_append, averaged_append, averaged_cons alike]
  refine ⟨same, fun metric other failed succeeded => ?_⟩
  rw [applicableTargets_of_measure failed, applicableTargets_of_measure succeeded, same]

/-- One target of the shop after all its attempts failed. -/
def failedShop : GenerationResult :=
  .failed Generator.smallShop Catalog.backendJava ⟨.transientFailure, "away", []⟩ "" 3

theorem averages_with_failed_smallShop :
    ∃ result metric other, Generator.generate .builtin Generator.smallShop Catalog.backendJava = .ok result ∧
      measure ([failedShop] ++ failedShop :: []) .security = .ok metric ∧
      measure ([failedShop] ++ result :: []) .security = .ok other ∧
      metric.applicableTargets = other.applicableTargets := by
  have member : Catalog.backendJava ∈ Catalog.targets := by simp [Catalog.targets]
  obtain ⟨result, generated, made⟩ := @Generator.exists_generate Generator.smallShop Catalog.backendJava (by decide)
    (Catalog.isMeasured member)
  have sound : failedShop.IsAnalysable := GenerationResult.isAnalysable_failed _ _ _ _ member
  obtain ⟨metric, failed, _⟩ := @exists_measure ([failedShop] ++ failedShop :: []) (by simpa using sound) .security
  obtain ⟨other, succeeded, _⟩ := @exists_measure ([failedShop] ++ result :: [])
    (by simpa using ⟨sound, made.isAnalysable member⟩) .security
  have same := ((averages_with_failed Generator.smallShop Catalog.backendJava).2 .builtin result generated
    ⟨.transientFailure, "away", []⟩ "" 3 .security [failedShop] []).2 metric other failed succeeded
  exact ⟨result, metric, other, generated, failed, succeeded, same⟩

end ConsistencyReport

end Prism
