import Prism.Proofs.Run.Possible

namespace Prism.Run

variable {α : Type}

/-- No limit on the phase or on a task. -/
structure Rules.IsFree (rules : Rules α) : Prop where
  deadline : rules.deadline = none
  budget : rules.budget = none

/-- An event that disturbs nothing; a task finishes with its own value. -/
def Event.IsQuiet (value : Nat → α) : Event α → Prop
  | .cancel => False
  | .finish index result => result = value index
  | .advance _ | .start _ | .check | .expire _ | .gather | .release => True

namespace Phase

/-- A phase that nothing has disturbed. `there` tells which positions have a task. -/
structure IsQuiet (value : Nat → α) (there : Nat → Bool) (phase : Phase α) : Prop extends
    phase.IsOrderly, phase.IsPossible fun index result => result = value index where
  notCancelled : phase.cancelled = false
  notHalted : phase.halt = none
  tasks : ∀ index, phase.tasks[index]?.any Task.isThere = there index
  unexpired : ∀ index, (index, .expired) ∉ phase.settlements

variable {value : Nat → α} {there : Nat → Bool} {phase : Phase α}

namespace IsQuiet

/-- An event that disturbs nothing leaves a phase that nothing has disturbed. -/
theorem step (quiet : phase.IsQuiet value there) {rules : Rules α} (free : rules.IsFree)
    {event : Event α} (calm : event.IsQuiet value) : (phase.step rules event).IsQuiet value there := by
  have change := change_step rules phase event
  have orderly := quiet.toIsOrderly.of_change change
  have possible := quiet.toIsPossible.of_change change fun index result given => by
    rcases given with rfl | ⟨_, _, stops⟩
    · exact calm
    · exact absurd stops (by simp [isStopping, quiet.notCancelled, quiet.notHalted])
  have tasks (index : Nat) := ((Precedes.of_change change).there index).trans (quiet.tasks index)
  have unexpired (index : Nat) : (index, .expired) ∉ phase.settlements ++ doneFrom 0 phase.tasks := by
    simp [quiet.unexpired index, mem_doneFrom]
  generalize phase.step rules event = next at change orderly possible tasks
  cases change with
  | aside _ _ signal =>
    refine ⟨orderly, possible, Bool.eq_false_iff.mpr fun stops => ?_, quiet.notHalted, tasks, quiet.unexpired⟩
    rcases signal.mp stops with already | rfl
    · exact absurd already (by simp [quiet.notCancelled])
    · exact calm
  | moved | idle => exact ⟨orderly, possible, quiet.notCancelled, quiet.notHalted, tasks, quiet.unexpired⟩
  | interrupted _ _ _ reason => exact absurd reason (by simp [quiet.notCancelled, free.deadline])
  | expired _ limited => exact absurd free.budget limited
  | gathered =>
    obtain ⟨mode, same⟩ := exists_concluded { phase.collect with now := none }
    rw [same] at orderly possible tasks ⊢
    exact ⟨orderly, possible, quiet.notCancelled, quiet.notHalted, tasks, unexpired⟩
  | released => exact ⟨orderly, possible, quiet.notCancelled, quiet.notHalted, tasks, unexpired⟩

/-- A whole history without disturbance. -/
theorem replay {rules : Rules α} (free : rules.IsFree) {events : List (Event α)}
    (calm : ∀ event ∈ events, event.IsQuiet value) (quiet : phase.IsQuiet value there) :
    (phase.replay rules events).IsQuiet value there := by
  induction events generalizing phase with
  | nil => exact quiet
  | cons event events ih =>
    have first := quiet.step free (calm event (List.mem_cons_self ..))
    exact ih (fun later member => calm later (List.mem_cons_of_mem _ member)) first

/-- Only what tasks gave is settled. -/
theorem eq_of_mem (quiet : phase.IsQuiet value there) {index : Nat} {settlement : Settlement α}
    (member : (index, settlement) ∈ phase.settlements) : settlement = .collected (value index) := by
  cases settlement with
  | collected result => rw [quiet.collected index result member]
  | expired => exact absurd member (quiet.unexpired index)

/-- When the phase has ended every task has given its value, and nothing else is settled. -/
theorem lookup_settlements (quiet : phase.IsQuiet value there) (finished : phase.mode = .ended) (index : Nat) :
    phase.settlements.lookup index =
      if there index = true then some (.collected (value index)) else none := by
  split
  · next present =>
    obtain ⟨settlement, member⟩ := quiet.exists_settlement quiet.notHalted finished ((quiet.tasks index).trans present)
    rw [lookup_of_mem quiet.once member, quiet.eq_of_mem member]
  · next missing =>
    refine List.lookup_eq_none_iff.mpr fun pair member => ?_
    rw [bne_iff_ne]
    rintro rfl
    rw [← quiet.tasks, quiet.closed _ _ member] at missing
    exact missing rfl

end IsQuiet

end Phase

end Prism.Run
