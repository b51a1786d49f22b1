import Prism.Estimate
import Prism.Proofs.Fallible

namespace Prism

namespace Number

/-- A floating-point number. -/
def isFloat : Number → Bool
  | .int _ => false
  | .float _ => true

theorem isFloat_iff {number : Number} : number.isFloat = true ↔ ∃ value, number = .float value := by
  cases number <;> simp [isFloat]

theorem fits_of_isFloat {number : Number} (floats : number.isFloat = true) : number.fits = true := by
  obtain ⟨value, rfl⟩ := isFloat_iff.mp floats
  rfl

theorem two_pow_64_lt : 2 ^ 64 < Decimal.magnitudeLimit := by
  have grows : 2 ^ 64 ≤ 2 ^ 970 := Nat.pow_le_pow_right (by decide) (by decide)
  have whole : Nat.pow 2 1024 = 2 ^ 54 * 2 ^ 970 := by rw [show 1024 = 54 + 970 by norm_num, Nat.pow_eq, pow_add]
  rw [Decimal.magnitudeLimit, whole, Nat.pow_eq]
  generalize 2 ^ 970 = unit at grows ⊢
  omega

theorem fits_int_of_small {n : Int} (small : n.natAbs < 2 ^ 64) : (int n).fits = true := by
  rw [fits, decide_eq_true_eq]
  exact small.trans two_pow_64_lt

theorem toFloat_of_fits {number : Number} (fits : number.fits = true) :
    number.toFloat = .ok number.nearest := if_pos fits

theorem fits_of_toFloat {number : Number} {value : Float} (rounded : number.toFloat = .ok value) :
    number.fits = true := by
  by_contra large
  exact nomatch (if_neg large : number.toFloat = .error .tooLarge).symm.trans rounded

theorem plus_float {a : Number} (fits : a.fits = true) (y : Float) :
    a.plus (.float y) = .ok (.float (a.nearest + y)) := by
  have rounded := toFloat_of_fits fits
  cases a with
  | int n =>
    simp only [plus, rounded]
    rfl
  | float x => rfl

/-- The mean of floating-point numbers. -/
theorem exists_mean {numbers : List Number} (floats : ∀ number ∈ numbers, number.isFloat = true) :
    ∃ value, mean numbers = .ok value := by
  have adds (start : Float) {more : List Number} (all : ∀ number ∈ more, number.isFloat = true) :
      ∃ value, more.foldlM plus (.float start) = .ok (.float value) := by
    induction more generalizing start with
    | nil => exact ⟨start, rfl⟩
    | cons number more ih =>
      obtain ⟨value, rfl⟩ := isFloat_iff.mp (all number (List.mem_cons_self ..))
      exact ih (start + value) fun other member => all other (List.mem_cons_of_mem _ member)
  cases numbers with
  | nil => exact ⟨0.0, rfl⟩
  | cons number more =>
    obtain ⟨value, rfl⟩ := isFloat_iff.mp (floats number (List.mem_cons_self ..))
    obtain ⟨total, sums⟩ := adds (Number.nearest 0 + value) fun other member =>
      floats other (List.mem_cons_of_mem _ member)
    have all : sum (.float value :: more) = .ok (.float total) := by
      have first : plus 0 (.float value) = .ok (.float (nearest 0 + value)) :=
        plus_float (fits_int_of_small (by decide)) value
      rw [sum, List.foldlM_cons, first, ← sums]
      rfl
    rw [mean, all]
    exact ⟨_, rfl⟩

/-- A part of a whole has a quotient. -/
theorem exists_quotient {a b : Int} (part : a.natAbs ≤ b.natAbs) : ∃ value, quotient a b = .ok value := by
  refine ⟨_, if_neg ?_⟩
  have limit : 1 < Decimal.magnitudeLimit := (by decide : 1 < 2 ^ 64).trans two_pow_64_lt
  simp only [ne_eq, decide_not, Bool.and_eq_true, Bool.not_eq_true', decide_eq_false_iff_not,
    decide_eq_true_eq, not_and, not_le]
  intro nonzero
  have positive := Int.natAbs_pos.mpr nonzero
  nlinarith

end Number

/-- A target whose baseline is made of numbers with floating-point neighbours. -/
def Target.isMeasured (target : Target) : Bool :=
  (Labelled.all : List Metric).all fun metric => (target.baseline.get metric).fits

theorem Target.fits_baseline {target : Target} (measured : target.isMeasured = true) (metric : Metric) :
    (target.baseline.get metric).fits = true := by
  have all := List.all_eq_true.mp measured metric
  cases metric <;> exact all (by decide)

theorem exists_retainedMeasure {measure : Number} (fits : measure.fits = true)
    (optimizations : List Optimization) (metric : Metric) (grown : Number) :
    ∃ value, retainedMeasure optimizations metric measure grown = .ok value ∧ value.isFloat = true :=
  ⟨_, if_pos fits, rfl⟩

/-- Whatever is in a bundle, a measured target has an estimate, and all of it but the time to compile
that an optimization can act on is floating-point. -/
theorem Target.exists_estimate {target : Target} (measured : target.isMeasured = true) (files bytes : Nat) :
    ∃ performance, target.estimate files bytes = .ok performance ∧
      ∀ category : OptimizationCategory, (performance.get category.metric).isFloat = true := by
  have fits := target.fits_baseline measured
  obtain ⟨left, leftSize, floatSize⟩ := exists_retainedMeasure (fits .outputSize) target.optimizations .outputSize
    (target.baseline.outputSize + .int bytes)
  obtain ⟨memory, leftMemory, floatMemory⟩ := exists_retainedMeasure (fits .memoryUsage) target.optimizations
    .memoryUsage target.baseline.memoryUsage
  obtain ⟨startup, leftStartup, floatStartup⟩ := exists_retainedMeasure (fits .startupTime) target.optimizations
    .startupTime target.baseline.startupTime
  simp only [Performance.get] at leftSize leftMemory leftStartup
  refine ⟨{
    compilationTime := (target.baseline.compilationTime + .int (compileTimePerFile * files : Nat)).round 2
    outputSize := left
    executionSpeed := target.baseline.executionSpeed
    memoryUsage := memory
    startupTime := startup }, ?_, ?_⟩
  · simp only [Target.estimate, leftSize, leftMemory, leftStartup, bind, Except.bind, pure, Except.pure]
  intro category
  cases category with
  | performance | battery => exact floatStartup
  | memory => exact floatMemory
  | size => exact floatSize

end Prism
