import Prism.Proofs.Number
import Prism.Run.Retry
import Prism.Target.Catalog

namespace Prism

/-- A failure that may pass. -/
def Attempt.IsTransient (attempt : Attempt) : Prop := ∃ message, attempt = .transient message

/-- The result of all attempts when this one is the last. -/
def Attempt.counted (spec : Specification) (target : Target) (number : Nat) : Attempt → GenerationResult
  | .produced result => { result with attempts := number }
  | .transient message => .failed spec target { kind := .transientFailure, message } "" number
  | .failed kind message => .failed spec target { kind, message } "" number

namespace Trial

variable {spec : Specification} {target : Target} {backoff : Number} {call : Nat → Attempt} {halted : Nat → Bool}

/-- There is a pause after an attempt: a whole number can be doubled for ever, a floating-point one cannot. -/
def HasPause : Number → Nat → Prop
  | .float _, attempt => attempt ≤ 1024
  | .int _, _ => True

/-- A power of two is below a greater one, even less a much smaller one. -/
theorem two_pow_lt_sub_iff {low top exponent : Nat} (less : low + 1 < top) :
    Nat.pow 2 exponent < Nat.pow 2 top - Nat.pow 2 low ↔ exponent < top := by
  have grows {m n : Nat} (most : m ≤ n) : 2 ^ m ≤ 2 ^ n := Nat.pow_le_pow_right (by decide) most
  simp only [Nat.pow_eq]
  constructor
  · intro below
    by_contra beyond
    exact absurd below (Nat.not_lt.mpr ((Nat.sub_le ..).trans (grows (Nat.le_of_not_lt beyond))))
  · intro within
    obtain ⟨half, rfl⟩ : ∃ half, top = half + 1 := ⟨top - 1, by omega⟩
    have bound := grows (Nat.le_of_lt_succ within)
    have small : 2 ^ low < 2 ^ half := Nat.pow_lt_pow_right (by decide) (by omega)
    rw [pow_succ']
    omega

theorem fits_two_pow_iff (exponent : Nat) : (Number.int (Nat.pow 2 exponent : Nat)).fits = true ↔ exponent < 1024 := by
  obtain ⟨low, top, limit, less, same⟩ : ∃ low top, Decimal.magnitudeLimit = Nat.pow 2 top - Nat.pow 2 low ∧
    low + 1 < top ∧ top = 1024 := ⟨970, 1024, Decimal.magnitudeLimit.eq_1, by decide, rfl⟩
  rw [Number.fits, decide_eq_true_iff, Int.natAbs_natCast, limit, two_pow_lt_sub_iff less, same]

theorem hasPause_float_iff (seconds : Float) (attempt : Nat) : HasPause (.float seconds) attempt ↔
    (Number.int (Nat.pow 2 (attempt - 1) : Nat)).fits = true := by
  rw [fits_two_pow_iff, HasPause]
  omega

/-- Where there is a pause, it is found. -/
theorem exists_pause {attempt : Nat} (paused : HasPause backoff attempt) :
    ∃ seconds, pause backoff attempt = .ok seconds := by
  cases backoff with
  | float value =>
    have rounded := Number.toFloat_of_fits ((hasPause_float_iff value attempt).mp paused)
    simp only [pause, Number.times, rounded]
    exact ⟨_, rfl⟩
  | int value => exact ⟨_, rfl⟩

/-- A floating-point pause cannot be doubled beyond all numbers. -/
theorem pause_of_late (seconds : Float) {attempt : Nat} (late : 1024 < attempt) :
    pause (.float seconds) attempt = .error .tooLarge := by
  have beyond : (Number.int (Nat.pow 2 (attempt - 1) : Nat)).toFloat = .error .tooLarge :=
    if_neg ((fits_two_pow_iff (attempt - 1)).not.mpr (by omega))
  simp only [pause, Number.times, beyond]
  rfl

/-- The attempts, from a first one on, that none follows: those that do not fail or fail for good, the one that uses up
the retries, and those that fail while the run is being stopped. -/
def endings (call : Nat → Attempt) (halted : Nat → Bool) (bound first : Nat) : Set Nat :=
  {attempt | first ≤ attempt ∧ (¬ (call attempt).IsTransient ∨ attempt = bound ∨
    (call attempt).IsTransient ∧ halted attempt = true)}

theorem mem_endings_iff {bound first attempt : Nat} : attempt ∈ endings call halted bound first ↔
    first ≤ attempt ∧ (¬ (call attempt).IsTransient ∨ attempt = bound ∨
      (call attempt).IsTransient ∧ halted attempt = true) := Iff.rfl

/-- What a single attempt gives. -/
theorem run_once (spec : Specification) (target : Target) (backoff : Number) (attempt : Nat) (outcome : Attempt) :
    ∃ notes, run spec target backoff (fun _ => outcome) (fun _ => false) 0 attempt =
      .ok { pauses := [], notes, result := outcome.counted spec target attempt } := by
  cases outcome <;> exact ⟨_, rfl⟩

/-- An attempt that none follows is a single one, whatever the generator would say at others. -/
theorem run_of_mem_endings (spec : Specification) (target : Target) (backoff : Number) {left attempt : Nat}
    (ends : attempt ∈ endings call halted (attempt + left) attempt) :
    run spec target backoff call halted left attempt =
      run spec target backoff (fun _ => call attempt) (fun _ => false) 0 attempt := by
  rw [run.eq_def spec target backoff call, run.eq_def spec target backoff fun _ => call attempt]
  cases outcome : call attempt with
  | produced result | failed kind message => simp only [outcome]
  | transient message =>
    cases left with
    | zero => simp only [outcome]
    | succ left =>
      have stopped : halted attempt = true := by simpa [mem_endings_iff, outcome, Attempt.IsTransient] using ends
      simp only [outcome, stopped, if_true]

/-- Any other attempt fails with retries left while the run goes on. -/
theorem transient_of_not_mem_endings {left attempt : Nat}
    (goesOn : attempt ∉ endings call halted (attempt + left) attempt) :
    ∃ message rest, call attempt = .transient message ∧ left = rest + 1 ∧ halted attempt = false := by
  simp only [mem_endings_iff, le_refl, true_and, not_or, not_not, not_and, Bool.not_eq_true] at goesOn
  obtain ⟨⟨message, transient⟩, unused, going⟩ := goesOn
  exact ⟨message, left - 1, transient, by omega, going ⟨message, transient⟩⟩

theorem run_of_transient (spec : Specification) (target : Target) (backoff : Number) (rest : Nat) {attempt : Nat}
    {message : String} (transient : call attempt = .transient message) (going : halted attempt = false) :
    run spec target backoff call halted (rest + 1) attempt = (do
      let seconds ← pause backoff attempt
      let later ← run spec target backoff call halted rest (attempt + 1)
      return { later with
        pauses := seconds :: later.pauses
        notes := retryNotes seconds attempt message :: later.notes }) := by
  rw [run.eq_def]
  simp only [transient, going, Bool.false_eq_true, if_false]

/-- What attempts come to that end with the last: so many are counted, the pause after each but the last is the backoff
doubled for each one before, there is no other pause, and the last gives the result. -/
structure Follows (spec : Specification) (target : Target) (backoff : Number) (call : Nat → Attempt)
    (first last : Nat) (trial : Trial) : Prop where
  attempts : trial.result.attempts = last
  pauses : trial.pauses.map Except.ok =
    (List.range' first (last - first)).map fun attempt => backoff.times (.int (2 ^ (attempt - 1) : Nat))
  result : trial.result = (call last).counted spec target last

theorem attempts_counted (number : Nat) (outcome : Attempt) :
    (outcome.counted spec target number).attempts = number := by
  cases outcome <;> rfl

/-- After an attempt that another follows, the last is still the same. -/
theorem isLeast_endings_succ {rest first last : Nat}
    (least : IsLeast (endings call halted (first + (rest + 1)) first) last)
    (goesOn : first ∉ endings call halted (first + (rest + 1)) first) :
    IsLeast (endings call halted (first + 1 + rest) (first + 1)) last ∧ first < last := by
  have later : first < last := lt_of_le_of_ne least.1.1 fun same => goesOn (same ▸ least.1)
  rw [Nat.add_right_comm, Nat.add_assoc]
  exact ⟨⟨⟨later, least.1.2⟩, fun other member => least.2 ⟨(Nat.le_succ first).trans member.1, member.2⟩⟩, later⟩

/-- With all pauses, attempts go on until one that none follows. -/
theorem run_follows (spec : Specification) (target : Target) {left first last : Nat}
    (least : IsLeast (endings call halted (first + left) first) last)
    (paused : ∀ attempt, first ≤ attempt → attempt < last → HasPause backoff attempt) :
    ∃ trial, run spec target backoff call halted left first = .ok trial ∧
      trial.Follows spec target backoff call first last := by
  by_cases ends : first ∈ endings call halted (first + left) first
  · obtain rfl : last = first := le_antisymm (least.2 ends) least.1.1
    obtain ⟨notes, run⟩ := run_once spec target backoff last (call last)
    exact ⟨_, (run_of_mem_endings spec target backoff ends).trans run, attempts_counted last (call last), by simp, rfl⟩
  · obtain ⟨message, rest, transient, rfl, going⟩ := transient_of_not_mem_endings ends
    obtain ⟨least, later⟩ := isLeast_endings_succ least ends
    obtain ⟨trial, run, follows⟩ := run_follows spec target least fun attempt after => paused attempt (by omega)
    obtain ⟨seconds, found⟩ := exists_pause (paused first le_rfl later)
    refine ⟨{ trial with
      pauses := seconds :: trial.pauses
      notes := retryNotes seconds first message :: trial.notes }, ?_, follows.attempts, ?_, follows.result⟩
    · rw [run_of_transient spec target backoff rest transient going]
      simp only [found, run, bind, Except.bind, pure, Except.pure]
    · obtain ⟨more, rfl⟩ : ∃ more, last = first + 1 + more := ⟨last - (first + 1), by omega⟩
      have rest := follows.pauses
      rw [Nat.add_sub_cancel_left] at rest
      rw [show first + 1 + more - first = more + 1 by omega, List.range'_succ, List.map_cons, List.map_cons, rest,
        ← found]
      rfl
  termination_by left

/-- Floating-point pauses run out. -/
theorem run_of_late (spec : Specification) (target : Target) (seconds : Float) {left first last : Nat}
    (least : IsLeast (endings call halted (first + left) first) last) (early : first ≤ 1025) (late : 1025 < last) :
    run spec target (.float seconds) call halted left first = .error .tooLarge := by
  have goesOn : first ∉ endings call halted (first + left) first := fun ends => by
    have bound := least.2 ends
    omega
  obtain ⟨message, rest, transient, rfl, going⟩ := transient_of_not_mem_endings goesOn
  rw [run_of_transient spec target (.float seconds) rest transient going]
  rcases Nat.lt_or_ge first 1025 with soon | now
  · obtain ⟨least, _⟩ := isLeast_endings_succ least goesOn
    obtain ⟨pause, found⟩ := @exists_pause (.float seconds) first (Nat.le_of_lt_succ soon)
    simp only [found, run_of_late spec target seconds least soon late, bind, Except.bind]
  · rw [pause_of_late seconds now]
    rfl
  termination_by left

/-- What the generator would say after the last attempt does not matter. -/
theorem run_congr (spec : Specification) (target : Target) (backoff : Number) {other : Nat → Attempt}
    {left first last : Nat} (least : IsLeast (endings call halted (first + left) first) last)
    (same : ∀ attempt, first ≤ attempt → attempt ≤ last → other attempt = call attempt) :
    run spec target backoff other halted left first = run spec target backoff call halted left first := by
  have here := same first le_rfl least.1.1
  by_cases ends : first ∈ endings call halted (first + left) first
  · have alike : first ∈ endings other halted (first + left) first := by rwa [mem_endings_iff, here]
    rw [run_of_mem_endings spec target backoff ends, run_of_mem_endings spec target backoff alike, here]
  · obtain ⟨message, rest, transient, rfl, going⟩ := transient_of_not_mem_endings ends
    obtain ⟨least, later⟩ := isLeast_endings_succ least ends
    rw [run_of_transient spec target backoff rest transient going,
      run_of_transient spec target backoff rest (here.trans transient) going,
      run_congr spec target backoff least fun attempt after => same attempt (by omega)]
  termination_by left

theorem exists_isLeast_endings (call : Nat → Attempt) (halted : Nat → Bool) (first left : Nat) :
    ∃ last, IsLeast (endings call halted (first + left) first) last :=
  ⟨_, Nat.sInf_mem ⟨first + left, Nat.le_add_right .., Or.inr (Or.inl rfl)⟩, fun _ => Nat.sInf_le⟩

/-- A failure for good in the place of an attempt that is reached makes it the last. -/
theorem isLeast_endings_update {bound first last number : Nat} (least : IsLeast (endings call halted bound first) last)
    (after : first ≤ number) (reached : number ≤ last) (kind : ErrorKind) (message : String) :
    IsLeast (endings (Function.update call number (.failed kind message)) halted bound first) number := by
  refine ⟨⟨after, Or.inl ?_⟩, fun other member => ?_⟩
  · simp [Attempt.IsTransient]
  · by_contra sooner
    rw [mem_endings_iff, Function.update_of_ne (by omega)] at member
    have bound := least.2 member
    omega

/-- The attempts at which the generator is called: what it says there makes a difference. -/
def Asks (spec : Specification) (target : Target) (backoff : Number) (call : Nat → Attempt) (halted : Nat → Bool)
    (retries number : Nat) : Prop :=
  ∃ other, run spec target backoff (Function.update call number other) halted retries 1 ≠
    run spec target backoff call halted retries 1

/-- With all pauses, the generator is called at every attempt up to the last and at no other. -/
theorem asks_iff (spec : Specification) (target : Target) {retries last : Nat}
    (least : IsLeast (endings call halted (1 + retries) 1) last)
    (paused : ∀ attempt, 1 ≤ attempt → attempt < last → HasPause backoff attempt) (number : Nat) :
    Asks spec target backoff call halted retries number ↔ 1 ≤ number ∧ number ≤ last := by
  constructor
  · rintro ⟨other, differs⟩
    by_contra outside
    refine differs (run_congr spec target backoff least fun attempt after before => ?_)
    exact Function.update_of_ne (by omega) ..
  · rintro ⟨positive, reached⟩
    obtain ⟨trial, run, _⟩ := run_follows spec target least paused
    -- A failure for good in this place shows in the result, if its message is not there already.
    obtain ⟨message, unlike⟩ : ∃ message, trial.result.error ≠ some { kind := .generationError, message } := by
      by_contra same
      push Not at same
      have equal := (same "").symm.trans (same "x")
      simp at equal
    refine ⟨.failed .generationError message, fun equal => unlike ?_⟩
    obtain ⟨changed, ran, follows⟩ := run_follows spec target
      (isLeast_endings_update least positive reached .generationError message)
      fun attempt after before => paused attempt after (by omega)
    obtain rfl := Except.ok.inj (ran.symm.trans (equal.trans run))
    rw [follows.result, Function.update_self]
    rfl

def bareShop : Specification := { metadata := { name := "shop" } }

/-- Two attempts fail in passing, the third gives a result. -/
def thirdTime (number : Nat) : Attempt := if number < 3 then .transient "away" else .produced default

/-- The generator is never there. -/
def everAway (_ : Nat) : Attempt := .transient "away"

end Trial

end Prism
