import Prism.Proofs.Fallible
import Prism.Proofs.Run.Turn

namespace Prism.Run

section Values

variable {α β : Type}

def Task.map (f : α → β) : Task α → Task β
  | .absent => .absent
  | .waiting => .waiting
  | .running since => .running since
  | .done value => .done (f value)
  | .closed => .closed

def Settlement.map (f : α → β) : Settlement α → Settlement β
  | .collected value => .collected (f value)
  | .expired => .expired

/-- The event in which a task finishes with another value. -/
def Event.map (f : Nat → α → β) : Event α → Event β
  | .cancel => .cancel
  | .advance amount => .advance amount
  | .start index => .start index
  | .finish index value => .finish index (f index value)
  | .check => .check
  | .expire index => .expire index
  | .gather => .gather
  | .release => .release

/-- The phase whose tasks gave other values. -/
def Phase.map (f : Nat → α → β) (phase : Phase α) : Phase β where
  clock := phase.clock
  cancelled := phase.cancelled
  tasks := phase.tasks.mapIdx fun index => Task.map (f index)
  mode := phase.mode
  now := phase.now
  halt := phase.halt
  settlements := phase.settlements.map fun pair => (pair.1, pair.2.map (f pair.1))

/-- Both rules set the same limits, and no task is skipped. -/
structure Rules.AreAlike (rules : Rules α) (others : Rules β) : Prop where
  deadline : others.deadline = rules.deadline
  budget : others.budget = rules.budget
  cancellable : others.cancellable = rules.cancellable
  unskipped : rules.skipped = none
  othersUnskipped : others.skipped = none

@[simp] theorem Task.isPending_map (f : α → β) (task : Task α) : (task.map f).isPending = task.isPending := by
  cases task <;> rfl

namespace Phase

variable (f : Nat → α → β) (phase : Phase α)

theorem getElem?_tasks_map (index : Nat) :
    (phase.map f).tasks[index]? = phase.tasks[index]?.map (Task.map (f index)) :=
  List.getElem?_mapIdx

theorem setTask_map (index : Nat) (task : Task α) :
    (phase.map f).setTask index (task.map (f index)) = (phase.setTask index task).map f := by
  simp only [setTask, map, List.mapIdx_set]

theorem hasPending_map : (phase.map f).hasPending = phase.hasPending := by
  unfold hasPending map
  induction phase.tasks generalizing f with
  | nil => rfl
  | cons task tasks ih =>
    have later := ih fun index => f (index + 1)
    simp only [List.mapIdx_cons, List.any_cons, Task.isPending_map]
    exact congrArg _ later

theorem concluded_map : (phase.map f).concluded = phase.concluded.map f := by
  simp only [concluded, hasPending_map]
  split <;> rfl

theorem doneFrom_map (position : Nat) (tasks : List (Task α)) :
    doneFrom position (tasks.mapIdx fun index => Task.map (f (position + index))) =
      (doneFrom position tasks).map fun pair => (pair.1, pair.2.map (f pair.1)) := by
  induction tasks generalizing position with
  | nil => rfl
  | cons task tasks ih =>
    have later := ih (position + 1)
    simp only [Nat.add_assoc, Nat.add_comm 1] at later
    cases task <;> simp [List.mapIdx_cons, doneFrom, Task.map, Task.value?, later, Settlement.map]

theorem collect_map : (phase.map f).collect = phase.collect.map f := by
  have done := doneFrom_map f 0 phase.tasks
  simp only [Nat.zero_add] at done
  simp only [collect, map, done, List.map_append, Phase.mk.injEq, and_true, true_and]
  refine List.ext_getElem? fun index => ?_
  simp only [List.getElem?_map, List.getElem?_mapIdx, Option.map_map]
  congr 1
  funext task
  cases task <;> rfl

theorem interrupt_map (kind : ErrorKind) : (phase.map f).interrupt kind = (phase.interrupt kind).map f := by
  simp only [interrupt, map, Phase.mk.injEq, and_true, true_and]
  refine List.ext_getElem? fun index => ?_
  simp only [List.getElem?_map, List.getElem?_mapIdx, Option.map_map]
  congr 1
  funext task
  cases task <;> rfl

variable {rules : Rules α} {others : Rules β} (alike : rules.AreAlike others)

include alike in
theorem isOverdue_map (index : Nat) : (phase.map f).IsOverdue others index ↔ phase.IsOverdue rules index := by
  have running (since : Number) : (phase.map f).tasks[index]? = some (.running since) ↔
      phase.tasks[index]? = some (.running since) := by
    rw [getElem?_tasks_map]
    cases phase.tasks[index]? with
    | none => simp
    | some task => cases task <;> simp [Task.map]
  simp only [IsOverdue, running, alike.budget]
  rfl

include alike in
theorem step_map (event : Event α) : (phase.map f).step others (event.map f) = (phase.step rules event).map f := by
  cases event with
  | cancel | advance amount => rfl
  | start index =>
    simp only [step, Event.map, start, getElem?_tasks_map, alike.unskipped, alike.othersUnskipped]
    cases phase.tasks[index]? with
    | none => rfl
    | some task => cases task <;> first | rfl | exact setTask_map f phase index (.running phase.clock)
  | finish index value =>
    simp only [step, Event.map, finish, getElem?_tasks_map]
    cases phase.tasks[index]? with
    | none => rfl
    | some task => cases task <;> first | rfl | exact setTask_map f phase index (.done value)
  | check =>
    simp only [step, Event.map, check, hasPending_map, alike.deadline, alike.cancellable, apply_ite (Phase.map f),
      ← interrupt_map]
    rfl
  | expire index =>
    by_cases late : phase.IsOverdue rules index
    · have lateToo := (isOverdue_map f phase alike index).mpr late
      rw [Event.map, step, step, expire_of_isOverdue late, expire_of_isOverdue lateToo, ← concluded_map]
      have closed := setTask_map f phase index .closed
      have settled : (phase.map f).settlements ++ [(index, .expired)] =
          (phase.settlements ++ [(index, .expired)] : List (Nat × Settlement α)).map
            fun pair => (pair.1, pair.2.map (f pair.1)) := by
        rw [List.map_append]
        rfl
      rw [Task.map] at closed
      rw [closed, settled]
      rfl
    · have earlyToo := mt (isOverdue_map f phase alike index).mp late
      rw [Event.map, step, step, expire_of_not_isOverdue late, expire_of_not_isOverdue earlyToo]
  | gather =>
    simp only [step, Event.map, gather, collect_map, apply_ite (Phase.map f), ← concluded_map]
    rfl
  | release =>
    simp only [step, Event.map, release, collect_map, apply_ite (Phase.map f)]
    rfl

include alike in
theorem replay_map (events : List (Event α)) :
    (phase.map f).replay others (events.map (Event.map f)) = (phase.replay rules events).map f := by
  induction events generalizing phase with
  | nil => rfl
  | cons event events ih =>
    rw [List.map_cons, replay, List.foldl_cons, step_map f phase alike]
    exact ih (phase.step rules event)

end Phase

end Values

theorem map_validationStart {α β : Type} (f : Nat → α → β) (generation : Phase Slot) (slots : List Slot) :
    (validationStart generation slots).map f = validationStart generation slots := by
  simp only [validationStart, Phase.map, Phase.mk.injEq, List.map_nil, true_and, and_true]
  refine List.ext_getElem? fun index => ?_
  simp only [List.getElem?_mapIdx, List.getElem?_map, Option.map_map]
  congr 1
  funext slot
  cases slot <;> rfl

theorem areAlike_validationRules {α β : Type} (settings : CompilerSettings) (deadline : Option Number)
    (generation : Phase Slot) : (validationRules settings deadline generation : Rules α).AreAlike
      (validationRules settings deadline generation : Rules β) :=
  ⟨rfl, rfl, rfl, rfl, rfl⟩

/-- What validation can give at a position: what the validator says of the result there. -/
def CanValidate (validator : Validator) (spec : Specification) (targets : List Target) (slots : List Slot)
    (index : Nat) (outcome : ValidationOutcome) : Prop :=
  ∀ target result, targets[index]? = some target → slots[index]? = some (some result) →
    outcome = validator.validate spec target result

/-- One run on any number of workers: the time and the signal to stop when it starts, and all that happens
in its two phases. -/
structure History where
  clock : Number
  cancelled : Bool
  generating : List (Event Slot)
  validating : List (Event ValidationOutcome)

end Prism.Run

namespace Prism

open Run

theorem Attempt.generated_of_produced {generated : Except GenerationFault GenerationResult} {result : GenerationResult}
    (produced : ofGeneration generated = .produced result) : generated = .ok result := by
  unfold ofGeneration at produced
  split at produced
  · exact congrArg Except.ok (Attempt.produced.inj produced)
  · split at produced <;> exact absurd produced (by simp)
  · exact absurd produced (by simp)

/-- What counts in the end is what a call of the generator gave, or a failure that was made of what it told. -/
theorem Trial.result_cases {spec : Specification} {target : Target} {backoff : Number} {call : Nat → Attempt}
    {halted : Nat → Bool} {left attempt : Nat} {trial : Trial}
    (run : Trial.run spec target backoff call halted left attempt = .ok trial) :
    (∃ number result, call number = .produced result ∧ trial.result = { result with attempts := number }) ∨
      ∃ error number, trial.result = GenerationResult.failed spec target error "" number := by
  fun_induction Trial.run spec target backoff call halted left attempt generalizing trial with
  | case1 left attempt result produced =>
    obtain rfl := Except.ok.inj run
    exact Or.inl ⟨attempt, result, produced, rfl⟩
  | case2 | case3 | case4 =>
    obtain rfl := Except.ok.inj run
    exact Or.inr ⟨_, _, rfl⟩
  | case5 attempt message failed left goesOn ih =>
    obtain ⟨seconds, _, run⟩ := exists_of_bind_eq_ok run
    obtain ⟨later, again, run⟩ := exists_of_bind_eq_ok run
    have counted := ih again
    obtain rfl := Except.ok.inj run
    exact counted

namespace Compiler

section Histories

variable (good : Target → Attempt → Prop) (compiler : Compiler) (spec : Specification) (targets : List Target)
  (history : History)

/-- Generation at its end. -/
def generationOf : Phase Slot :=
  (generationStart targets history.clock history.cancelled).replay
    (generationRules compiler.settings history.clock) history.generating

/-- What generation leaves. -/
abbrev slotsOf : List Slot := compiler.slotsAfter spec targets (compiler.generationOf targets history)

/-- Validation at its end. -/
def validationOf : Phase ValidationOutcome :=
  let generation := compiler.generationOf targets history
  (validationStart generation (compiler.slotsAfter spec targets generation)).replay
    (validationRules compiler.settings (generationRules compiler.settings history.clock).deadline generation)
    history.validating

def outcomeOf : Except OptimizationFault RunOutcome :=
  compiler.outcomeAfter spec targets (compiler.generationOf targets history)
    (compiler.validationOf spec targets history)

theorem isOrderly_generationOf : (compiler.generationOf targets history).IsOrderly :=
  (isOpening_generationStart ..).isOrderly.replay _ history.generating

theorem isOrderly_validationOf : (compiler.validationOf spec targets history).IsOrderly :=
  (isOpening_validationStart ..).isOrderly.replay _ history.validating

@[simp] theorem length_slotsAfter (generation : Phase Slot) :
    (compiler.slotsAfter spec targets generation).length = targets.length := by
  simp [slotsAfter, generatedSlots]

/-- A generation task comes to its end after some calls of the generator, all of them good, whenever it sees that
the run is being stopped. -/
def Tries (target : Target) (slot : Slot) : Prop :=
  ∃ (call : Nat → Attempt) (halted : Nat → Bool) (trial : Trial), (∀ number, good target (call number)) ∧
    Trial.run spec target compiler.settings.retryBackoff call halted compiler.settings.maxRetries.toNat 1 =
      .ok trial ∧ slot = some trial.result

/-- A history that can take place: tasks of generation end after good calls of the generator, and tasks of
validation end with what the validator says of the results. -/
structure Allows : Prop where
  generating : ∀ event ∈ history.generating, event.IsPossible fun index slot =>
    ∀ target, targets[index]? = some target → compiler.Tries good spec target slot
  validating : ∀ event ∈ history.validating, event.IsPossible
    (CanValidate compiler.validator spec targets (compiler.slotsOf spec targets history))

end Histories

section OneWorker

variable {ε : Type} {good : Target → Attempt → Prop} {compiler : Compiler} {spec : Specification}
  {targets : List Target}

/-- All calls of the generator are good, its own and those that a script puts in their place. -/
structure AllCalls (good : Target → Attempt → Prop) (compiler : Compiler) (spec : Specification)
    (targets : List Target) (script : Script ε) : Prop where
  own : ∀ target ∈ targets, good target (.ofGeneration (Generator.generate compiler.source spec target))
  scripted : ∀ target ∈ targets, ∀ disturbance ∈ script.generate target.id, ∀ attempt,
    disturbance.failure = some attempt → good target attempt

theorem isDisturbance_of_mem {α : Type} {index : Nat} {steps : List (Disturbance ε)} {event : Event α}
    (member : event ∈ steps.flatMap (·.events index)) : event.IsDisturbance index := by
  obtain ⟨disturbance, _, inside⟩ := List.mem_flatMap.mp member
  rcases List.mem_append.mp inside with early | late
  · rcases List.mem_append.mp early with first | second
    · split at first
      · rw [List.mem_singleton.mp first]
        trivial
      · exact absurd first (by simp)
    · obtain ⟨amount, _, rfl⟩ := List.mem_map.mp second
      trivial
  · split at late
    · exact absurd late List.not_mem_nil
    · rw [List.mem_singleton.mp late]
      trivial
    · rcases List.mem_pair.mp late with rfl | rfl
      · trivial
      · rfl
    · rcases List.mem_pair.mp late with rfl | rfl <;> trivial

theorem isPossible_of_mem {α : Type} {possible : Nat → α → Prop} {index : Nat} {steps : List (Disturbance ε)}
    {event : Event α} (member : event ∈ steps.flatMap (·.events index)) : event.IsPossible possible := by
  have disturbs := isDisturbance_of_mem member
  cases event with
  | finish other value => exact disturbs.elim
  | cancel | advance | start | check | expire | gather | release => trivial

theorem isRoutine_isPossible {α : Type} (possible : Nat → α → Prop) :
    Phase.IsRoutine (Event.IsPossible possible) :=
  ⟨fun _ => trivial, trivial, trivial, trivial⟩

/-- A task works through disturbances and finishes: this is a turn. -/
theorem exists_turn_worked {α : Type} {holds : Event α → Prop} (routine : Phase.IsRoutine holds) (rules : Rules α)
    (phase : Phase α) {index : Nat} {disturbances : List (Event α)}
    (own : ∀ event ∈ disturbances, event.IsDisturbance index ∧ holds event) {value : α}
    (can : holds (.finish index value)) :
    ∃ events, phase.IsTurn rules index events ∧ (∀ event ∈ events, holds event) ∧
      ((phase.step rules (.start index)).replay rules disturbances).replay rules
        [.finish index value, .gather, .check] = phase.replay rules events := by
  refine ⟨_, .worked (fun event member => (own event member).1) value, ?_, List.foldl_append.symm⟩
  have others := fun event member => (own event member).2
  simpa [or_imp, forall_and, can, routine.start, routine.gather, routine.check] using others

/-- The task of a target works through its disturbances and finishes after good calls. -/
theorem exists_attempt_events {setting : Setting Slot} {steps : List (Disturbance Attempt)} {index : Nat}
    {target : Target} (own : good target (.ofGeneration (Generator.generate compiler.source spec target)))
    (scripted : ∀ disturbance ∈ steps, ∀ attempt, disturbance.failure = some attempt → good target attempt)
    {begun : Stage Slot} {next : Generation}
    (attempted : compiler.attempt spec setting steps index target begun = .ok next) :
    ∃ disturbances slot, (∀ event ∈ disturbances, event ∈ steps.flatMap (·.events index)) ∧
      compiler.Tries good spec target slot ∧ next.stage.phase =
        (begun.phase.replay setting.rules disturbances).replay setting.rules
          [.finish index slot, .gather, .check] := by
  obtain ⟨trial, run, attempted⟩ := exists_of_bind_eq_ok attempted
  obtain rfl := Except.ok.inj attempted
  have tries : compiler.Tries good spec target (some trial.result) := by
    refine ⟨_, _, trial, fun number => ?_, run, rfl⟩
    change good target ((steps[number - 1]?.bind (·.failure)).getD _)
    cases failure : steps[number - 1]?.bind (·.failure) with
    | none => exact own
    | some attempt =>
      obtain ⟨disturbance, found, fails⟩ := Option.bind_eq_some_iff.mp failure
      exact scripted disturbance (List.mem_of_getElem? found) attempt fails
  generalize fold : (List.range trial.calls).foldl _ begun = played
  obtain ⟨disturbances, disturb, same⟩ : ∃ disturbances, (∀ event ∈ disturbances,
      event ∈ steps.flatMap (·.events index)) ∧ played.phase = begun.phase.replay setting.rules disturbances := by
    rw [← fold]
    refine List.foldlRecOn (List.range trial.calls) _ (motive := fun stage : Stage Slot => ∃ disturbances,
      (∀ event ∈ disturbances, event ∈ steps.flatMap (·.events index)) ∧
        stage.phase = begun.phase.replay setting.rules disturbances) ⟨[], by simp, rfl⟩ fun stage earlier call _ => ?_
    obtain ⟨before, disturb, same⟩ := earlier
    refine ⟨before ++ steps[call]?.toList.flatMap (·.events index),
      List.forall_mem_append.mpr ⟨disturb, fun event inside => ?_⟩, ?_⟩
    · obtain ⟨disturbance, here, brought⟩ := List.mem_flatMap.mp inside
      exact List.mem_flatMap.mpr ⟨disturbance, List.mem_of_getElem? (Option.mem_toList.mp here), brought⟩
    rw [Phase.replay, List.foldl_append]
    simp only
    split
    · rw [Stage.phase_tell, Stage.phase_replay, same]
      rfl
    · rw [Stage.phase_replay, same]
      rfl
  refine ⟨disturbances, some trial.result, disturb, tries, ?_⟩
  rw [Stage.phase_replay, same]

/-- What a target can come to in generation. -/
abbrev CanTry (good : Target → Attempt → Prop) (compiler : Compiler) (spec : Specification) (targets : List Target)
    (index : Nat) (slot : Slot) : Prop :=
  ∀ target, targets[index]? = some target → compiler.Tries good spec target slot

/-- What happens in generation on one worker: what a script brings about, and tasks that finish after good calls. -/
structure Generates (good : Target → Attempt → Prop) (compiler : Compiler) (spec : Specification)
    (targets : List Target) (script : Script ε) (holds : Event Slot → Prop) : Prop where
  calls : AllCalls good compiler spec targets script
  routine : Phase.IsRoutine holds
  scripted : ∀ index target, targets[index]? = some target →
    ∀ event ∈ (script.generate target.id).flatMap (·.events index), holds event
  finished : ∀ index target slot, targets[index]? = some target → compiler.Tries good spec target slot →
    holds (.finish index slot)

theorem generates_of_calls {script : Script ε} (calls : AllCalls good compiler spec targets script) :
    Generates good compiler spec targets script (Event.IsPossible (CanTry good compiler spec targets)) :=
  ⟨calls, isRoutine_isPossible _, fun _ _ _ _ => isPossible_of_mem,
    fun _ _ _ place tries _ here => Option.some.inj (place.symm.trans here) ▸ tries⟩

variable {holds : Event Slot → Prop}

/-- The next target has its turn in generation. -/
theorem exists_turn_generateNext {script : Script ε} (generates : Generates good compiler spec targets script holds)
    {setting : Setting Slot} {target : Target} {index : Nat} (place : targets[index]? = some target)
    {generation next : Generation}
    (turned : compiler.generateNext spec setting script generation (target, index) = .ok next) :
    ∃ events, generation.stage.phase.IsTurn setting.rules index events ∧ (∀ event ∈ events, holds event) ∧
      next.stage.phase = generation.stage.phase.replay setting.rules events := by
  have member := List.mem_of_getElem? place
  have routine := generates.routine
  rw [generateNext] at turned
  split at turned
  · obtain ⟨played, attempted, turned⟩ := exists_of_bind_eq_ok turned
    obtain rfl := Except.ok.inj turned
    obtain ⟨disturbances, slot, disturb, tries, same⟩ :=
      exists_attempt_events (generates.calls.own target member) (generates.calls.scripted target member) attempted
    rw [same]
    have own (event : Event Slot) (inside : event ∈ disturbances) : event.IsDisturbance index ∧ holds event :=
      ⟨isDisturbance_of_mem (disturb event inside), generates.scripted index target place event (disturb event inside)⟩
    exact exists_turn_worked routine setting.rules generation.stage.phase own
      (generates.finished index target slot place tries)
  · next done =>
    obtain rfl := Except.ok.inj turned
    exact ⟨_, .skipped done, by simp [routine.start, routine.gather, routine.check], Stage.phase_replay ..⟩
  · next idle done =>
    obtain rfl := Except.ok.inj turned
    refine ⟨[.start index], .passed fun _ task found => ?_, by simp [routine.start], rfl⟩
    cases task with
    | absent | closed => rfl
    | running since => exact absurd found (idle since)
    | done slot => exact absurd found (done slot)
    | waiting => exact absurd found (Phase.not_waiting_of_start setting.rules _ index)

/-- Generation on one worker is one of all that can happen. -/
theorem exists_generating {script : Script ε} (generates : Generates good compiler spec targets script holds)
    {generation : Generation} (generated : compiler.generateAll spec targets script = .ok generation) :
    ∃ events, (∀ event ∈ events, holds event) ∧
      (generationStart targets 0 script.cancelled).replay (generationRules compiler.settings 0) events =
        generation.stage.phase ∧ generation.stage.phase.mode = .ended ∧
      (generation.stage.phase.halt = none → generation.stage.phase.IsPossible (Phase.Finishes holds)) := by
  obtain ⟨final, folded, generated⟩ := exists_of_bind_eq_ok generated
  obtain rfl := Except.ok.inj generated
  have opening := isOpening_generationStart targets 0 script.cancelled
  have played : Phase.IsPlayed (generationRules compiler.settings 0) holds
      (generationStart targets 0 script.cancelled) (0 + targets.length) final.stage.phase := by
    refine of_foldlM_zipIdx_eq_ok (motive := fun position (generation : Generation) =>
      Phase.IsPlayed (generationRules compiler.settings 0) holds (generationStart targets 0 script.cancelled) position
        generation.stage.phase) (opening.isPlayed generates.routine) ?_ folded
    intro before index target place reached after turned
    rw [Nat.zero_add] at reached turned ⊢
    obtain ⟨events, turn, can, same⟩ := exists_turn_generateNext generates place turned
    exact same ▸ reached.turn opening (Or.inl rfl) turn can
  obtain ⟨events, can, same, ended, sound⟩ := played.release generates.routine (by simp [generationStart])
  rw [same] at ended sound
  exact ⟨events, can, same, ended, sound⟩

/-- What the validator says of the result at a position, unless the task is made to fail. -/
abbrev CanConclude (ε : Type) (compiler : Compiler) (spec : Specification) (targets : List Target)
    (slots : List Slot) (index : Nat) (value : Except ε ValidationOutcome) : Prop :=
  ∀ outcome, value = .ok outcome → CanValidate compiler.validator spec targets slots index outcome

/-- What happens in validation on one worker: what a script brings about, and tasks that finish with what the
validator says or fail as the script has it. -/
structure Validates (compiler : Compiler) (spec : Specification) (targets : List Target) (slots : List Slot)
    (script : Script ε) (holds : Event (Except ε ValidationOutcome) → Prop) : Prop where
  routine : Phase.IsRoutine holds
  scripted : ∀ index target, targets[index]? = some target →
    ∀ event ∈ ((script.validate target.id).take 1).flatMap (·.events index), holds event
  failed : ∀ index target, targets[index]? = some target →
    ∀ failure, ((script.validate target.id).take 1).head?.bind (·.failure) = some failure →
      holds (.finish index (.error failure))
  finished : ∀ index target result, targets[index]? = some target → slots[index]? = some (some result) →
    holds (.finish index (.ok (compiler.validator.validate spec target result)))

theorem validates_of_slots (compiler : Compiler) (spec : Specification) (targets : List Target) (slots : List Slot)
    (script : Script ε) :
    Validates compiler spec targets slots script (Event.IsPossible (CanConclude ε compiler spec targets slots)) where
  routine := isRoutine_isPossible _
  scripted _ _ _ _ := isPossible_of_mem
  failed _ _ _ _ _ _ same := absurd same (by simp)
  finished index target result place filled outcome same other own atOther atSlot := by
    obtain rfl := Option.some.inj (place.symm.trans atOther)
    obtain rfl := Option.some.inj (Option.some.inj (filled.symm.trans atSlot))
    exact (Except.ok.inj same).symm

/-- The next target has its turn in validation. -/
theorem exists_turn_validateNext {slots : List Slot} {setting : Setting (Except ε ValidationOutcome)}
    (unskipped : setting.rules.skipped = none) {script : Script ε} {holds : Event (Except ε ValidationOutcome) → Prop}
    (validates : Validates compiler spec targets slots script holds) {target : Target} {slot : Slot} {index : Nat}
    (place : targets[index]? = some target) (filled : slots[index]? = some slot)
    {stage : Stage (Except ε ValidationOutcome)} (reached : stage.phase.IsAt setting.rules index)
    (empty : slot = none → stage.phase.tasks[index]? = some .absent) :
    ∃ events, stage.phase.IsTurn setting.rules index events ∧ (∀ event ∈ events, holds event) ∧
      (compiler.validateNext spec setting script stage ((target, slot), index)).phase =
        stage.phase.replay setting.rules events := by
  simp only [validateNext]
  split
  · next result _ _ =>
    simp only [Stage.phase_replay, apply_ite Stage.phase, Stage.phase_tell, ite_self, Stage.disturbed]
    have own (event : Event (Except ε ValidationOutcome))
        (inside : event ∈ (((script.validate target.id).take 1).take 1).flatMap (·.events index)) :
        event.IsDisturbance index ∧ holds event := by
      rw [List.take_take] at inside
      exact ⟨isDisturbance_of_mem inside, validates.scripted index target place event inside⟩
    refine exists_turn_worked validates.routine setting.rules stage.phase own ?_
    split
    · next failure fails => exact validates.failed index target place failure fails
    · exact validates.finished index target result place filled
  · next slot _ _ idle =>
    refine ⟨[.start index], .passed fun watching task found => ?_, by simp [validates.routine.start], rfl⟩
    rcases Phase.start_cases setting.rules stage.phase index with
      ⟨other, same⟩ | ⟨waiting, same⟩ | ⟨_, value, skips, _⟩
    · rw [Phase.step, same] at found
      by_contra pending
      obtain ⟨_, rfl⟩ := reached.ahead watching index task found ((Bool.not_eq_false _).mp pending)
      exact other found
    · cases slot with
      | none => exact absurd (empty rfl) (by simp [waiting])
      | some result =>
        refine absurd ?_ (idle result stage.phase.clock rfl)
        rw [Stage.phase_step, Phase.step, same, Phase.getElem?_setTask waiting, if_pos rfl]
    · exact absurd skips (by simp [unskipped])

/-- Validation on one worker is one of all that can happen. -/
theorem exists_validating {script : Script ε} (generation : Phase Slot) {slots : List Slot}
    {holds : Event (Except ε ValidationOutcome) → Prop} (length : slots.length = targets.length)
    (validates : Validates compiler spec targets slots script holds) :
    ∃ events, (∀ event ∈ events, holds event) ∧
      (validationStart generation slots).replay
          (validationRules compiler.settings (generationRules compiler.settings 0).deadline generation) events =
        (compiler.validateAll spec targets script generation slots).phase ∧
      (compiler.validateAll spec targets script generation slots).phase.mode = .ended := by
  have opening : (validationStart generation slots : Phase (Except ε ValidationOutcome)).IsOpening :=
    isOpening_validationStart generation slots
  let setting : Setting (Except ε ValidationOutcome) :=
    { rules := validationRules compiler.settings (generationRules compiler.settings 0).deadline generation
      targets
      expiry := "Validation timed out after " }
  let start : Stage (Except ε ValidationOutcome) := { phase := validationStart generation slots }
  have played : Phase.IsPlayed setting.rules holds start.phase (targets.zip slots).length
      ((targets.zip slots).zipIdx.foldl (compiler.validateNext spec setting script)
        (start.replay setting [.check])).phase := by
    refine of_foldl_zipIdx (motive := fun position (stage : Stage (Except ε ValidationOutcome)) =>
      Phase.IsPlayed setting.rules holds start.phase position stage.phase) (opening.isPlayed validates.routine) ?_
    rintro stage index ⟨target, slot⟩ member reached
    obtain ⟨place, filled⟩ := List.getElem?_zip_eq_some.mp member
    have empty (none : slot = none) : stage.phase.tasks[index]? = some .absent := by
      refine reached.precedes.rests index .absent ?_ rfl
      simp [start, validationStart, filled, none]
    have unskipped : setting.rules.skipped = none := rfl
    obtain ⟨events, turn, can, same⟩ :=
      exists_turn_validateNext unskipped validates place filled reached.reached empty
    exact same ▸ reached.turn opening (Or.inr rfl) turn can
  obtain ⟨events, can, same, ended, _⟩ :=
    played.release validates.routine (by simp [start, validationStart, length])
  rw [same] at ended
  exact ⟨events, can, same, ended⟩

/-- What is settled without failure are the outcomes that were collected. -/
theorem eq_map_of_settled {f : Nat → Except ε ValidationOutcome → ValidationOutcome}
    (keeps : ∀ index outcome, f index (.ok outcome) = outcome)
    {before : List (Nat × Settlement (Except ε ValidationOutcome))}
    {after : List (Nat × Settlement ValidationOutcome)} (ok : settled before = .ok after) :
    after = before.map fun pair => (pair.1, pair.2.map (f pair.1)) := by
  fun_induction settled before generalizing after with
  | case1 => exact (Except.ok.inj ok).symm
  | case2 place rest ih =>
    obtain ⟨others, later, rfl⟩ := exists_of_map_eq_ok ok
    rw [List.map_cons, ih later]
    rfl
  | case3 place failure rest => exact absurd ok (by simp)
  | case4 place other rest ih =>
    obtain ⟨others, later, rfl⟩ := exists_of_map_eq_ok ok
    rw [List.map_cons, ih later, Settlement.map, keeps]

/-- What validation at a position comes to: the outcome that was given, or else what the validator says of the
result there. -/
def concludedAt (compiler : Compiler) (spec : Specification) (targets : List Target) (slots : List Slot)
    (index : Nat) : Except ε ValidationOutcome → ValidationOutcome
  | .ok outcome => outcome
  | .error _ => match targets[index]?, slots[index]? with
    | some target, some (some result) => compiler.validator.validate spec target result
    | _, _ => default

theorem canValidate_concludedAt {slots : List Slot} {index : Nat} {value : Except ε ValidationOutcome}
    (can : CanConclude ε compiler spec targets slots index value) :
    CanValidate compiler.validator spec targets slots index (concludedAt compiler spec targets slots index value) := by
  cases value with
  | ok outcome => exact can outcome rfl
  | error failure =>
    intro target result place filled
    simp only [concludedAt, place, filled]

/-- A history goes as a script has it on one worker: both phases come to their ends, and generation that nothing
interrupts leaves no target out. -/
structure Plays (good : Target → Attempt → Prop) (compiler : Compiler) (spec : Specification) (targets : List Target)
    (script : Script ε) (generation : Generation) (history : History) : Prop where
  allowed : compiler.Allows good spec targets history
  generating : compiler.generationOf targets history = generation.stage.phase
  validating : compiler.validationOf spec targets history =
    (compiler.validateAll spec targets script generation.stage.phase
      (compiler.slotsAfter spec targets generation.stage.phase)).phase.map
        (concludedAt compiler spec targets (compiler.slotsAfter spec targets generation.stage.phase))
  generated : (compiler.generationOf targets history).mode = .ended
  validated : (compiler.validationOf spec targets history).mode = .ended
  sound : (compiler.generationOf targets history).halt = none →
    (compiler.generationOf targets history).IsPossible (CanTry good compiler spec targets)

/-- Every run on one worker is a history. -/
theorem exists_history {script : Script ε} (calls : AllCalls good compiler spec targets script)
    {record : RunRecord} (run : compiler.rehearse spec targets script = .ok record) :
    ∃ generation history, compiler.generateAll spec targets script = .ok generation ∧
      Plays good compiler spec targets script generation history ∧
      compiler.outcomeOf spec targets history = .ok record.outcome := by
  obtain ⟨generation, generated, run⟩ := exists_of_bind_eq_ok run
  obtain ⟨_, _, run⟩ := exists_of_bind_eq_ok run
  obtain ⟨_, _, run⟩ := exists_of_bind_eq_ok run
  obtain ⟨settlements, ok, run⟩ := exists_of_bind_eq_ok run
  obtain ⟨outcome, concluded, run⟩ := exists_of_bind_eq_ok run
  obtain rfl := Except.ok.inj run
  obtain ⟨generating, canTry, reached, ended, sound⟩ := exists_generating (generates_of_calls calls)
    (ok_of_mapError generated)
  set slots := compiler.slotsAfter spec targets generation.stage.phase
  have length : slots.length = targets.length := compiler.length_slotsAfter spec targets generation.stage.phase
  obtain ⟨validating, canConclude, judged, finished⟩ := exists_validating generation.stage.phase length
    (validates_of_slots compiler spec targets slots script)
  let history : History :=
    { clock := 0
      cancelled := script.cancelled
      generating
      validating := validating.map (Event.map (concludedAt compiler spec targets slots)) }
  have first : compiler.generationOf targets history = generation.stage.phase := reached
  have second : compiler.validationOf spec targets history =
      (compiler.validateAll spec targets script generation.stage.phase slots).phase.map
        (concludedAt compiler spec targets slots) := by
    rw [validationOf, first, ← judged, ← Phase.replay_map _ _ (areAlike_validationRules ..), map_validationStart]
  have settlements : settlements = (compiler.validationOf spec targets history).settlements := by
    rw [second]
    exact eq_map_of_settled (fun _ _ => rfl) (ok_of_mapError ok)
  refine ⟨generation, history, ok_of_mapError generated, ?_, ?_⟩
  · refine ⟨⟨canTry, ?_⟩, first, second, first ▸ ended, second ▸ finished, first ▸ sound⟩
    rw [slotsOf, first]
    intro event member
    obtain ⟨event, inside, rfl⟩ := List.mem_map.mp member
    have can := canConclude event inside
    cases event with
    | finish index value => exact canValidate_concludedAt can
    | cancel | advance | start | check | expire | gather | release => trivial
  · rw [outcomeOf, outcomeAfter, ← settlements, second, first]
    exact ok_of_mapError concluded

end OneWorker

section Once

variable (compiler : Compiler) (spec : Specification) (targets : List Target)

/-- The collector settles each task of either phase at most once, and what it writes into the slots one after
another is what the run goes on with: a slot that was written is not written again. -/
structure SettlesTasksOnce (history : History) : Prop where
  generating : (generationStart targets history.clock history.cancelled).SettlesOnce
    (generationRules compiler.settings history.clock) history.generating
  validating : (validationStart (compiler.generationOf targets history)
      (compiler.slotsOf spec targets history)).SettlesOnce
    (validationRules compiler.settings (generationRules compiler.settings history.clock).deadline
      (compiler.generationOf targets history)) history.validating
  generated : written (writeGenerated spec compiler.settings targets) (targets.map fun _ => none)
      (compiler.generationOf targets history).settlements = compiler.slotsOf spec targets history
  validated : (written (writeValidated compiler.settings targets) (compiler.slotsOf spec targets history)
      (compiler.validationOf spec targets history).settlements).map
        (fun slot => slot.filter fun result => result.validation.isSome) =
    validatedSlots compiler.settings targets (compiler.slotsOf spec targets history)
      (compiler.validationOf spec targets history).settlements

/-- In whatever order tasks start, finish and expire, whenever the caller signals, the time is over or the last
tasks are given up, no task is settled twice; nor is one on one worker under any script. -/
theorem collector_settles_once {ε : Type} :
    (∀ history, compiler.SettlesTasksOnce spec targets history) ∧
    ∀ (script : Script ε) generation, compiler.generateAll spec targets script = .ok generation →
      (generation.stage.phase.settlements.map Prod.fst).Nodup ∧
      ((compiler.validateAll spec targets script generation.stage.phase
        (compiler.slotsAfter spec targets generation.stage.phase)).phase.settlements.map Prod.fst).Nodup := by
  constructor
  · intro history
    have first := isOpening_generationStart targets history.clock history.cancelled
    have second := isOpening_validationStart (α := ValidationOutcome) (compiler.generationOf targets history)
      (compiler.slotsOf spec targets history)
    exact {
      generating := Phase.settlesOnce_of_isOpening first _ history.generating
      validating := Phase.settlesOnce_of_isOpening second _ history.validating
      generated := written_generated spec compiler.settings (compiler.isOrderly_generationOf targets history).once
      validated := written_validated compiler.settings (compiler.length_slotsAfter spec targets _)
        (compiler.isOrderly_validationOf spec targets history).once }
  · intro script generation generated
    have calls : AllCalls (fun _ _ => True) compiler spec targets script :=
      ⟨fun _ _ => trivial, fun _ _ _ _ _ _ => trivial⟩
    obtain ⟨generating, _, reached, _⟩ := exists_generating (generates_of_calls calls) generated
    obtain ⟨validating, _, judged, _⟩ := exists_validating generation.stage.phase
      (compiler.length_slotsAfter spec targets generation.stage.phase)
      (validates_of_slots compiler spec targets _ script)
    rw [← judged]
    refine ⟨?_, ((isOpening_validationStart ..).isOrderly.replay _ validating).once⟩
    rw [← reached]
    exact ((isOpening_generationStart ..).isOrderly.replay _ generating).once

/-- A compiler that grants each task one second. -/
def hasty : Compiler := { settings := { targetTimeout := some 1 } }

/-- Every call of the generator breaks down after two seconds. -/
def slowScript : Script Empty where
  generate _ := [{ advance := some 2, wait := some .timeout, failure := some (.failed .generationError "") }]

/-- A task that finishes after it has expired. -/
def lateHistory : History where
  clock := 0
  cancelled := false
  generating := [.check, .start 0, .advance 2, .check, .expire 0, .finish 0 none, .gather]
  validating := []

theorem collector_settles_once_late :
    hasty.SettlesTasksOnce { metadata := { name := "shop" } } [Catalog.webVue] lateHistory ∧
      (hasty.generationOf [Catalog.webVue] lateHistory).settlements = [(0, .expired)] ∧
      ∃ generation, hasty.generateAll { metadata := { name := "shop" } } [Catalog.webVue] slowScript =
          .ok generation ∧ generation.stage.phase.settlements = [(0, .expired)] ∧
        (generation.stage.phase.settlements.map Prod.fst).Nodup := by
  have settles := @collector_settles_once hasty { metadata := { name := "shop" } } [Catalog.webVue] Empty
  refine ⟨settles.1 lateHistory, rfl, _, rfl, rfl, ?_⟩
  exact (settles.2 slowScript _ rfl).1

end Once

end Compiler

end Prism
