import Prism.Proofs.Generation
import Prism.Run.Outcome

namespace Prism

/-- A result of a built-in target whose numbers can be analysed. -/
structure GenerationResult.IsAnalysable (result : GenerationResult) : Prop where
  known : ∃ target ∈ Catalog.targets, target.id = result.targetId
  measures : ∀ category : OptimizationCategory, (result.performance.get category.metric).fits = true
  coverage : ∀ item ∈ result.coverage, item.covered.natAbs ≤ item.total.natAbs
  accuracy : ∀ pair ∈ result.score.dimensionAccuracy, pair.2.isFloat = true

theorem Generator.IsGenerated.isAnalysable {spec : Specification} {target : Target} {result : GenerationResult}
    (generated : IsGenerated spec target result) (member : target ∈ Catalog.targets) : result.IsAnalysable where
  known := ⟨target, member, generated.targetId.symm⟩
  measures category := Number.fits_of_isFloat (generated.measures category)
  coverage item covered := by
    rw [generated.coverage] at covered
    obtain ⟨dimension, _, rfl⟩ := List.mem_map.mp covered
    split
    · simp
    · simpa using List.countP_le_length
  accuracy pair listed := by
    rw [generated.score] at listed
    obtain ⟨tally, _, rfl⟩ := List.mem_map.mp listed
    rfl

theorem GenerationResult.isAnalysable_failed (spec : Specification) {target : Target} (error : GenerationError)
    (fingerprint : String) (attempts : Nat) (member : target ∈ Catalog.targets) :
    (GenerationResult.failed spec target error fingerprint attempts).IsAnalysable where
  known := ⟨target, member, rfl⟩
  measures category := target.fits_baseline (Catalog.isMeasured member) _
  coverage item covered := by
    obtain ⟨dimension, _, rfl⟩ := List.mem_map.mp covered
    simp
  accuracy pair listed := by
    obtain ⟨dimension, _, rfl⟩ := List.mem_map.mp listed
    rfl

namespace ConsistencyReport

theorem exists_measure {results : List GenerationResult} (sound : ∀ result ∈ results, result.IsAnalysable)
    (dimension : Dimension) :
    ∃ metric, measure results dimension = .ok metric ∧ metric.consistency.isFloat = true := by
  by_cases nowhere : (results.filter (appliesTo dimension)).isEmpty = true
  · exact ⟨_, if_pos nowhere, rfl⟩
  · have applicable : ∀ result ∈ results.filter (appliesTo dimension), result.IsAnalysable :=
      fun result member => sound result (List.mem_filter.mp member).1
    obtain ⟨ratios, divided, _⟩ : ∃ ratios, ((results.filter (appliesTo dimension)).filterMap
        (·.coverageFor? dimension)).mapM (·.ratio) = .ok ratios ∧ _ := by
      refine exists_mapM_ok fun item member => ?_
      obtain ⟨result, inside, found⟩ := List.mem_filterMap.mp member
      rw [Coverage.ratio]
      split
      · exact ⟨_, rfl⟩
      · exact Number.exists_quotient ((applicable result inside).coverage item (List.mem_of_find?_eq_some found))
    obtain ⟨completeness, meanRatio⟩ : ∃ value, Number.mean (ratios.map .float) = .ok value := by
      refine Number.exists_mean fun number member => ?_
      obtain ⟨ratio, _, rfl⟩ := List.mem_map.mp member
      rfl
    obtain ⟨accuracy, meanAccuracy⟩ : ∃ value, Number.mean ((results.filter (appliesTo dimension)).map fun result =>
        (result.score.dimensionAccuracy.lookup dimension).getD (.float 0.0)) = .ok value := by
      refine Number.exists_mean fun number member => ?_
      obtain ⟨result, inside, rfl⟩ := List.mem_map.mp member
      cases found : result.score.dimensionAccuracy.lookup dimension with
      | none => rfl
      | some value =>
        obtain ⟨front, back, shape, _⟩ := List.lookup_eq_some_iff.mp found
        exact (applicable result inside).accuracy (dimension, value) (by simp [shape])
    simp only [measure, nowhere, divided, meanRatio, meanAccuracy, bind, Except.bind, Bool.false_eq_true, if_false]
    exact ⟨_, rfl, rfl⟩

theorem exists_analyze {results : List GenerationResult} (sound : ∀ result ∈ results, result.IsAnalysable) :
    ∃ report, analyze results = .ok report := by
  obtain ⟨metrics, measured, origin⟩ := exists_mapM_ok fun dimension (_ : dimension ∈ Dimension.all) =>
    (exists_measure sound dimension).imp fun _ found => found.1
  have floats : ∀ number ∈ metrics.map (·.consistency), number.isFloat = true := by
    intro number member
    obtain ⟨metric, inside, rfl⟩ := List.mem_map.mp member
    obtain ⟨dimension, _, gives⟩ := origin metric inside
    obtain ⟨other, same, float⟩ := exists_measure sound dimension
    rwa [Except.ok.inj (gives.symm.trans same)]
  obtain ⟨overall, mean⟩ := Number.exists_mean floats
  simp only [analyze, measured, ofMetrics, mean, bind, Except.bind]
  exact ⟨_, rfl⟩

end ConsistencyReport

theorem exists_improvementPercent (baseline optimized : Float) :
    ∃ value, improvementPercent (.float baseline) (.float optimized) = .ok value := by
  rw [improvementPercent]
  split <;> exact ⟨_, rfl⟩

/-- A registered target is found by its id, at its own place. -/
theorem Registry.exists_get {registry : Registry} {id : String} (known : ∃ target ∈ registry.targets, target.id = id) :
    ∃ target place, registry.get id = .ok target ∧ registry.position id = .ok place ∧
      registry.targets[place]? = some target ∧ target.id = id := by
  obtain ⟨target, listed, rfl⟩ := known
  have found : registry.find? target.id = some target := find?_of_nodup registry.distinct listed
  cases search : registry.targets.findIdx? (·.id = target.id) with
  | none => exact absurd (List.findIdx?_eq_none_iff.mp search target listed) (by simp)
  | some place =>
    obtain ⟨bound, named, _⟩ := List.findIdx?_eq_some_iff_getElem.mp search
    have same : registry.targets[place] = target :=
      List.inj_on_of_nodup_map registry.distinct (List.getElem_mem bound) listed (by simpa using named)
    refine ⟨target, place, by rw [get, found], by rw [position, search], ?_, rfl⟩
    rw [List.getElem?_eq_getElem bound, same]

theorem Registry.get_builtin {id : String} (known : ∃ target ∈ Catalog.targets, target.id = id) :
    ∃ target ∈ Catalog.targets, Registry.builtin.get id = .ok target ∧ target.id = id := by
  obtain ⟨target, place, found, _, listed, same⟩ := @exists_get builtin id known
  exact ⟨target, List.mem_of_getElem? listed, found, same⟩

/-- A result whose target is registered. -/
def GenerationResult.IsRegistered (registry : Registry) (result : GenerationResult) : Prop :=
  ∃ target ∈ registry.targets, target.id = result.targetId

namespace OptimizationReport

/-- A result with its own target, at the place of the target. -/
structure Placed.IsOf (registry : Registry) (item : Placed) (result : GenerationResult) : Prop where
  own : item.result = result
  target : registry.targets[item.place]? = some item.target
  named : item.target.id = result.targetId

theorem exists_placed {registry : Registry} {result : GenerationResult} (known : result.IsRegistered registry) :
    ∃ item, placed registry result = .ok item ∧ item.IsOf registry result := by
  obtain ⟨target, place, found, position, listed, same⟩ := Registry.exists_get known
  simp only [placed, position, found, bind, Except.bind]
  exact ⟨_, rfl, rfl, listed, same⟩

theorem isOf_of_placed {registry : Registry} {result : GenerationResult} {item : Placed}
    (known : result.IsRegistered registry) (gives : placed registry result = .ok item) : item.IsOf registry result := by
  obtain ⟨other, same, own⟩ := exists_placed known
  rwa [Except.ok.inj (gives.symm.trans same)]

/-- Results of registered targets are all placed. -/
theorem exists_mapM_placed {registry : Registry} {results : List GenerationResult}
    (known : ∀ result ∈ results, result.IsRegistered registry) :
    ∃ items, results.mapM (placed registry) = .ok items ∧
      ∀ item ∈ items, ∃ result ∈ results, placed registry result = .ok item ∧ item.IsOf registry result := by
  obtain ⟨items, found, origin⟩ := exists_mapM_ok fun result member =>
    (exists_placed (known result member)).imp fun _ found => found.1
  refine ⟨items, found, fun item member => ?_⟩
  obtain ⟨result, inside, gives⟩ := origin item member
  exact ⟨result, inside, gives, isOf_of_placed (known result inside) gives⟩

/-- The measures that an optimization of a target acts on are no larger than floating-point numbers can be. -/
def IsComparable (target : Target) (result : GenerationResult) (optimization : Optimization) : Prop :=
  (target.baseline.get optimization.category.metric).fits = true ∧
    (result.performance.get optimization.category.metric).fits = true

theorem exists_metricOf_iff {target : Target} {result : GenerationResult} {optimization : Optimization} :
    (∃ metric, metricOf target result optimization = .ok metric) ↔ IsComparable target result optimization := by
  constructor
  · rintro ⟨metric, measured⟩
    obtain ⟨baseline, before, measured⟩ := exists_of_bind_eq_ok measured
    obtain ⟨optimized, after, _⟩ := exists_of_bind_eq_ok measured
    exact ⟨Number.fits_of_toFloat before, Number.fits_of_toFloat after⟩
  · rintro ⟨before, after⟩
    obtain ⟨percent, improved⟩ := exists_improvementPercent
      (target.baseline.get optimization.category.metric).nearest
      (result.performance.get optimization.category.metric).nearest
    simp only [metricOf, Number.toFloat_of_fits before, Number.toFloat_of_fits after, improved, bind, Except.bind]
    exact ⟨_, rfl⟩

theorem exists_metricsOf_iff {item : Placed} : (∃ metrics, metricsOf item = .ok metrics) ↔
    ∀ optimization ∈ item.target.optimizations, IsComparable item.target item.result optimization := by
  rw [metricsOf, exists_mapM_ok_iff]
  exact forall₂_congr fun optimization _ => exists_metricOf_iff

/-- The placed results in the order of the registry. -/
def inOrder (items : List Placed) : List Placed := items.mergeSort fun a b => a.place ≤ b.place

/-- Once the results are placed, the report is made from their metrics in the order of the registry. -/
theorem analyze_of_placed {registry : Registry} {results : List GenerationResult} {items : List Placed}
    (found : results.mapM (placed registry.orBuiltin) = .ok items) :
    analyze registry results = (((inOrder items).mapM metricsOf).mapError .number).map fun all =>
      ofMetrics (inOrder items) all.flatten := by
  rw [analyze, found]
  change (((inOrder items).mapM metricsOf).mapError OptimizationFault.number >>= fun all =>
    pure (ofMetrics (inOrder items) all.flatten)) = _
  cases ((inOrder items).mapM metricsOf).mapError OptimizationFault.number with
  | error fault => rfl
  | ok all => rfl

/-- Results of registered targets have a report exactly when their measures can be compared. -/
theorem exists_analyze_iff {registry : Registry} {results : List GenerationResult}
    (known : ∀ result ∈ results, result.IsRegistered registry.orBuiltin) :
    (∃ report, analyze registry results = .ok report) ↔
      ∀ result ∈ results, ∀ target ∈ registry.orBuiltin.targets, target.id = result.targetId →
        ∀ optimization ∈ target.optimizations, IsComparable target result optimization := by
  obtain ⟨items, found, origin⟩ := exists_mapM_placed known
  rw [analyze_of_placed found]
  constructor
  · rintro ⟨report, made⟩ result inside target listed same
    obtain ⟨all, measured, _⟩ := exists_of_map_eq_ok made
    obtain ⟨item, member, gives⟩ := exists_mem_mapM_ok found inside
    have own := isOf_of_placed (known result inside) gives
    have each := exists_mapM_ok_iff.mp ⟨all, ok_of_mapError measured⟩ item (List.mem_mergeSort.mpr member)
    have one : item.target = target := List.inj_on_of_nodup_map registry.orBuiltin.distinct
      (List.mem_of_getElem? own.target) listed (own.named.trans same.symm)
    rw [← one, ← own.own]
    exact exists_metricsOf_iff.mp each
  · intro each
    obtain ⟨all, measured⟩ : ∃ all, (inOrder items).mapM metricsOf = .ok all := by
      refine exists_mapM_ok_iff.mpr fun item member => exists_metricsOf_iff.mpr ?_
      obtain ⟨result, inside, _, own⟩ := origin item (List.mem_mergeSort.mp member)
      rw [own.own]
      exact each result inside item.target (List.mem_of_getElem? own.target) own.named
    exact ⟨_, by rw [measured]; rfl⟩

theorem exists_analyze {registry : Registry} (builtin : registry.orBuiltin = .builtin)
    {results : List GenerationResult} (sound : ∀ result ∈ results, result.IsAnalysable) :
    ∃ report, analyze registry results = .ok report := by
  refine (exists_analyze_iff fun result member => builtin ▸ (sound result member).known).mpr ?_
  rw [builtin]
  intro result member target listed _ optimization _
  exact ⟨target.fits_baseline (Catalog.isMeasured listed) _,
    (sound result member).measures optimization.category⟩

end OptimizationReport

/-- A run over built-in targets comes to an end with a report, which is complete when no target is
missing. -/
theorem Run.exists_conclude {registry : Registry} (builtin : registry.orBuiltin = .builtin)
    (spec : Specification) (targets : List Target) {slots : List Slot}
    (sound : ∀ result ∈ results slots, result.IsAnalysable) (interruption : Option ErrorKind) :
    ∃ outcome, conclude registry spec targets slots interruption = .ok outcome ∧
      outcome.state = .done ∧ outcome.results = results slots ∧ outcome.missing = missing targets slots ∧
      outcome.interruption = interruption ∧
      ∃ report, outcome.report = some report ∧ report.complete = (missing targets slots).isEmpty := by
  obtain ⟨consistency, consistent⟩ := ConsistencyReport.exists_analyze sound
  obtain ⟨optimization, optimized⟩ := OptimizationReport.exists_analyze builtin sound
  simp only [conclude, consistent, optimized, Except.mapError, bind, Except.bind]
  exact ⟨_, rfl, rfl, rfl, rfl, rfl, _, rfl, rfl⟩

end Prism
