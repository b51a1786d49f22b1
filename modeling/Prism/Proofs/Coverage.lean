import Prism.Proofs.Emission

namespace Prism

namespace Generator

variable {source : TemplateSource} {spec : Specification} {target : Target}

/-- Every source that has the templates gives the contracts that the bundled ones give. -/
theorem contracts_renderAll {rendered : List Rendered} (printed : renderAll source spec target = .ok rendered) :
    (rendered.map (·.artifact)).flatMap (·.contracts) = (artifacts spec target).flatMap (·.contracts) := by
  rw [List.flatMap_def, List.flatMap_def, map_renderAll (fun _ => rfl) printed]

theorem subjects_emittedIn {dimension : Dimension} (applies : target.applies dimension = true) :
    (emittedIn spec target dimension).map (·.1.subject) = (spec.contractsIn dimension).map (·.subject) := by
  cases dimension with
  | userInterface =>
    have interface : target.hasUserInterface = true := by simpa [Target.applies] using applies
    simp [emittedIn, Specification.contractsIn, interface]
  | businessLogic | dataModels | apiContracts | errorHandling | security =>
    simp [emittedIn, Specification.contractsIn]

/-- Every declared contract finds an emitted one. -/
theorem isCovered_of_mem {dimension : Dimension} (applies : target.applies dimension = true) {contract : Contract}
    (declared : contract ∈ spec.contractsIn dimension) :
    Comparison.isCovered ((artifacts spec target).flatMap (·.contracts)) dimension contract = true := by
  have subject : contract.subject ∈ (emittedIn spec target dimension).map (·.1.subject) := by
    rw [subjects_emittedIn applies]
    exact List.mem_map_of_mem declared
  obtain ⟨emission, member, same⟩ := List.mem_map.mp subject
  rw [Comparison.isCovered, emittedFor?_artifacts, Option.isSome_map, List.find?_isSome]
  exact ⟨emission, List.mem_reverse.mpr member, decide_eq_true same⟩

theorem countP_isCovered {dimension : Dimension} (applies : target.applies dimension = true) :
    (spec.contractsIn dimension).countP
        (Comparison.isCovered ((artifacts spec target).flatMap (·.contracts)) dimension) =
      (spec.contractsIn dimension).length :=
  List.countP_eq_length.mpr fun _ declared => isCovered_of_mem applies declared

end Generator

namespace Comparison

/-- Counts that are added as integers. -/
theorem sum_tallies (count : Tally → Nat) (tallies : List Tally) :
    (tallies.map fun tally => (count tally : Int)).sum = total (tallies.map count) := by
  induction tallies with
  | nil => rfl
  | cons tally tallies ih =>
    rw [List.map_cons, List.sum_cons, ih]
    exact (Int.natCast_add _ _).symm

variable (targetId : String) (declared : Dimension → Option (List Contract)) (emitted : List Contract)

/-- The dimensions that apply have the counts of their tallies. -/
theorem applicable_coverage : (compare targetId declared emitted).coverage.filter (·.applicable) =
    (compare targetId declared emitted).tallies.map fun tally =>
      { dimension := tally.dimension, covered := tally.covered, total := tally.total } := by
  unfold compare
  induction Dimension.all with
  | nil => rfl
  | cons dimension dimensions ih =>
    cases given : declared dimension with
    | none => simpa [given] using ih
    | some contracts => simpa [given, tally] using ih

end Comparison

/-- All that is declared for the target is emitted: there is one entry for each dimension in their order, a
dimension that applies is covered as a whole, any other counts nothing, and completeness is the covered part of
all declared contracts. -/
structure GenerationResult.CoversDeclared (spec : Specification) (target : Target) (result : GenerationResult) :
    Prop where
  dimensions : result.coverage.map (·.dimension) = Dimension.all
  applicable : ∀ entry ∈ result.coverage, entry.dimension ∈ target.dimensions →
    ∃ contracts, spec.declared target entry.dimension = some contracts ∧
      entry.covered = contracts.length ∧ entry.total = contracts.length ∧ entry.applicable = true
  inapplicable : ∀ entry ∈ result.coverage, entry.dimension ∉ target.dimensions →
    entry.covered = 0 ∧ entry.total = 0 ∧ entry.applicable = false
  completeness : ∃ subjects : Nat,
    ((result.coverage.filter (·.applicable)).map (·.covered)).sum = subjects ∧
    ((result.coverage.filter (·.applicable)).map (·.total)).sum = subjects ∧
    result.score.completeness = ⟨.float (fraction subjects subjects),
      Preservation.note subjects subjects "declared contracts produced an artifact"⟩

theorem Dimension.mem_all (dimension : Dimension) : dimension ∈ Dimension.all := by
  cases dimension <;> decide

theorem Target.mem_dimensions_iff {target : Target} {dimension : Dimension} :
    dimension ∈ target.dimensions ↔ target.applies dimension = true := by
  simp [dimensions, Dimension.mem_all]

namespace Generator

variable (spec : Specification) (target : Target)

/-- The entry of a dimension when all that is declared in it is emitted. -/
def wholeCoverage (dimension : Dimension) : Coverage :=
  if target.applies dimension then
    { dimension
      covered := (spec.contractsIn dimension).length
      total := (spec.contractsIn dimension).length }
  else { dimension, covered := 0, total := 0, applicable := false }

theorem dimension_wholeCoverage (dimension : Dimension) :
    (wholeCoverage spec target dimension).dimension = dimension := by
  unfold wholeCoverage
  split <;> rfl

theorem coverage_comparison : (comparison spec target).coverage = Dimension.all.map (wholeCoverage spec target) := by
  refine List.map_congr_left fun dimension _ => ?_
  unfold wholeCoverage Specification.declared
  cases applies : target.applies dimension with
  | false => rfl
  | true => simp [countP_isCovered applies]

theorem covered_tallies : (comparison spec target).tallies.map (·.covered) =
    (comparison spec target).tallies.map (·.total) := by
  refine List.map_congr_left fun tally member => ?_
  obtain ⟨dimension, _, given⟩ := List.mem_filterMap.mp member
  unfold Specification.declared at given
  split at given
  · next applies =>
    obtain rfl := Option.some.inj given
    exact countP_isCovered applies
  · exact absurd given (by simp)

variable {spec target}

/-- A target that succeeds emits all that is declared for it, wherever its templates come from. -/
theorem generate_covers_declared {source : TemplateSource} {result : GenerationResult}
    (generated : generate source spec target = .ok result) (success : result.success = true) :
    result.CoversDeclared spec target := by
  rcases generate_cases generated with rfl | ⟨rendered, printed, assembled⟩
  · exact absurd success (by simp [GenerationResult.failed])
  have compared : result.coverage = (comparison spec target).coverage := by
    rw [assembled.coverage, contracts_renderAll printed]
    rfl
  have entries := compared.trans (coverage_comparison spec target)
  have tallied := Comparison.applicable_coverage target.id (spec.declared target)
    ((artifacts spec target).flatMap (·.contracts))
  refine ⟨?_, fun entry member applies => ?_, fun entry member absent => ?_,
    total ((comparison spec target).tallies.map (·.total)), ?_, ?_, ?_⟩
  · rw [entries, List.map_map]
    exact List.map_id'' (dimension_wholeCoverage spec target) _
  · rw [entries] at member
    obtain ⟨dimension, _, rfl⟩ := List.mem_map.mp member
    rw [dimension_wholeCoverage, Target.mem_dimensions_iff] at applies
    refine ⟨spec.contractsIn dimension, ?_, ?_⟩
    · rw [dimension_wholeCoverage, Specification.declared, if_pos applies]
    · simp [wholeCoverage, applies]
  · rw [entries] at member
    obtain ⟨dimension, _, rfl⟩ := List.mem_map.mp member
    rw [dimension_wholeCoverage, Target.mem_dimensions_iff] at absent
    simp [wholeCoverage, absent]
  · rw [compared, ← covered_tallies]
    rw [comparison, tallied, List.map_map]
    exact Comparison.sum_tallies _ _
  · rw [compared]
    rw [comparison, tallied, List.map_map]
    exact Comparison.sum_tallies _ _
  · rw [assembled.score, contracts_renderAll printed]
    exact congrArg (fun covered => Score.mk (.float (fraction (total covered) _))
      (Preservation.note (total covered) _ "declared contracts produced an artifact")) (covered_tallies spec target)

/-- One element in every section that declares contracts. -/
def smallShop : Specification where
  metadata := { name := "shop" }
  entities := [{ id := "item", name := "Item", fields := [{ id := "code", name := "Code", type := .string }] }]
  flows := [{ id := "sell", name := "Sell", steps := [{ id := "pay", name := "Pay", type := .form }] }]
  compliance := { rules := [{ id := "keep", name := "Keep", implementation := .encryption }] }

/-- Templates that all print the same line. -/
def plainTemplates : TemplateSource where
  load _ := .replaced "nothing here"

theorem generate_covers_declared_smallShop :
    ∃ result, generate plainTemplates smallShop Catalog.backendJava = .ok result ∧ result.success = true ∧
      result.CoversDeclared smallShop Catalog.backendJava := by
  have valid : smallShop.structuralErrors = [] := by decide
  obtain ⟨rendered, printed⟩ : ∃ rendered, renderAll plainTemplates smallShop Catalog.backendJava = .ok rendered :=
    ⟨_, rfl⟩
  obtain ⟨manifest, built⟩ : ∃ manifest, Manifest.build plainTemplates smallShop Catalog.backendJava.framework =
      .ok manifest := ⟨_, rfl⟩
  obtain ⟨result, assembled⟩ : ∃ result, assemble smallShop Catalog.backendJava rendered manifest
      (unmarkedText "nothing here") = .ok result := by
    obtain ⟨performance, estimated, _⟩ := Catalog.backendJava.exists_estimate
      (Catalog.isMeasured (by simp [Catalog.targets])) (rendered.map (·.artifact)).length
      (OutputBundle.totalBytes { files := rendered.map (·.artifact) })
    exact ⟨_, congrArg (· >>= _) estimated⟩
  have read (context) : TemplateSource.printNamed plainTemplates "readme.md.j2" Template.readme context =
      .ok (unmarkedText "nothing here") := rfl
  have generated : generate plainTemplates smallShop Catalog.backendJava = .ok result := by
    simp only [generate, valid, List.isEmpty_nil, Bool.not_true, Bool.false_eq_true, if_false, printed, built, read,
      assembled, Except.mapError, bind, Except.bind]
  have success : result.success = true := by
    obtain ⟨performance, _, made⟩ := exists_of_bind_eq_ok assembled
    exact Except.ok.inj made ▸ rfl
  exact ⟨result, generated, success, generate_covers_declared generated success⟩

end Generator

end Prism
