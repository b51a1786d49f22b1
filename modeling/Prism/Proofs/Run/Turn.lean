import Prism.Proofs.Run.Undisturbed

namespace Prism.Run

variable {α : Type}

/-- What can happen while a task is at work. -/
def Event.IsDisturbance (index : Nat) : Event α → Prop
  | .cancel | .advance _ | .check | .release => True
  | .expire other => other = index
  | .start _ | .finish _ _ | .gather => False

namespace Phase

/-- The turn of a task: it starts, works through disturbances and finishes; or it is skipped; or it is not there
to start. -/
inductive IsTurn (rules : Rules α) (phase : Phase α) (index : Nat) : List (Event α) → Prop
  | worked {disturbances : List (Event α)} (own : ∀ event ∈ disturbances, event.IsDisturbance index) (value : α) :
      IsTurn rules phase index (.start index :: (disturbances ++ [.finish index value, .gather, .check]))
  | skipped {value : α} (done : (phase.step rules (.start index)).tasks[index]? = some (.done value)) :
      IsTurn rules phase index [.start index, .gather, .check]
  | passed (rests : phase.mode = .watching → ∀ task, (phase.step rules (.start index)).tasks[index]? = some task →
      task.isPending = false) : IsTurn rules phase index [.start index]

/-- So many tasks have had their turns. If the collector still watches it has looked since, has seen no signal
that it minds, and all tasks that are pending wait for their turns. -/
structure IsAt (rules : Rules α) (position : Nat) (phase : Phase α) : Prop where
  looked : phase.mode = .watching → phase.now.isSome = true
  heeded : phase.mode = .watching → rules.cancellable = true → phase.cancelled = false
  busy : phase.mode = .watching → phase.hasPending = true
  ahead : phase.mode = .watching → ∀ index task, phase.tasks[index]? = some task → task.isPending = true →
    position ≤ index ∧ task = .waiting

/-- A task has its turn: those before it are settled, those behind it wait. -/
structure IsAmid (position : Nat) (phase : Phase α) : Prop where
  looked : phase.mode = .watching → phase.now.isSome = true
  others : phase.mode = .watching → ∀ index task, phase.tasks[index]? = some task → task.isPending = true →
    index = position ∧ task ≠ .waiting ∨ position < index ∧ task = .waiting

variable {rules : Rules α} {position : Nat} {phase : Phase α}

theorem getElem?_set_cases {tasks : List (Task α)} {index other : Nat} {new task : Task α}
    (found : (tasks.set index new)[other]? = some task) : other = index ∧ task = new ∨ tasks[other]? = some task := by
  rw [List.getElem?_set] at found
  split at found
  · next same =>
    split at found
    · exact Or.inl ⟨same.symm, (Option.some.inj found).symm⟩
    · exact absurd found (by simp)
  · exact Or.inr found

/-- The task whose turn it is moves on. -/
theorem IsAmid.setTask (amid : phase.IsAmid position) {new : Task α} (moves : new ≠ .waiting) :
    (phase.setTask position new).IsAmid position where
  looked := amid.looked
  others watching index task found pending := by
    rcases getElem?_set_cases found with ⟨rfl, rfl⟩ | before
    · exact Or.inl ⟨rfl, moves⟩
    · exact amid.others watching index task before pending

theorem IsAmid.concluded (amid : phase.IsAmid position) : phase.concluded.IsAmid position := by
  unfold Phase.concluded
  split
  · exact amid
  · exact ⟨fun watching => absurd watching (by simp), fun watching => absurd watching (by simp)⟩

theorem IsAmid.check (amid : phase.IsAmid position) : (phase.check rules).IsAmid position := by
  have stops {next : Phase α} (stopped : next.mode ≠ .watching) : next.IsAmid position :=
    ⟨fun watching => absurd watching stopped, fun watching => absurd watching stopped⟩
  unfold Phase.check
  split
  · exact amid
  split
  · exact stops (by simp)
  split
  · exact stops (by simp [Phase.interrupt])
  split
  · exact stops (by simp [Phase.interrupt])
  · exact { amid with looked := fun _ => rfl }

theorem IsAt.start (reached : phase.IsAt rules position) : (phase.step rules (.start position)).IsAmid position := by
  have moved (found : phase.tasks[position]? = some .waiting) {new : Task α} (moves : new ≠ .waiting) :
      (phase.setTask position new).IsAmid position := by
    refine ⟨reached.looked, fun watching index task place pending => ?_⟩
    rw [getElem?_setTask found] at place
    split at place
    · next here => exact Or.inl ⟨here.symm, Option.some.inj place ▸ moves⟩
    · obtain ⟨behind, waiting⟩ := reached.ahead watching index task place pending
      exact Or.inr ⟨by omega, waiting⟩
  rcases start_cases rules phase position with ⟨other, same⟩ | ⟨found, same⟩ | ⟨found, value, _, _, same⟩ <;>
    rw [step, same]
  · refine ⟨reached.looked, fun watching index task found pending => ?_⟩
    obtain ⟨behind, waiting⟩ := reached.ahead watching index task found pending
    have apart : index ≠ position := by
      rintro rfl
      exact other (waiting ▸ found)
    exact Or.inr ⟨by omega, waiting⟩
  · exact moved found (by simp)
  · exact moved found (by simp)

theorem not_waiting_of_start (rules : Rules α) (phase : Phase α) (index : Nat) :
    (phase.step rules (.start index)).tasks[index]? ≠ some .waiting := by
  rcases start_cases rules phase index with ⟨other, same⟩ | ⟨found, same⟩ | ⟨found, value, _, _, same⟩ <;>
    rw [step, same]
  · exact other
  · simp [getElem?_setTask found]
  · simp [getElem?_setTask found]

theorem IsAmid.disturbed (amid : phase.IsAmid position) {event : Event α} (own : event.IsDisturbance position) :
    (phase.step rules event).IsAmid position := by
  cases event with
  | cancel | advance amount => exact { amid with }
  | check => exact amid.check
  | expire index =>
    obtain rfl : index = position := own
    by_cases late : phase.IsOverdue rules index
    · rw [step, expire_of_isOverdue late]
      have closed : (phase.setTask index .closed).IsAmid index := amid.setTask (by simp)
      exact IsAmid.concluded { closed with }
    · rw [step, expire_of_not_isOverdue late]
      exact amid
  | release =>
    simp only [step, release]
    split
    · exact ⟨fun watching => absurd watching (by simp), fun watching => absurd watching (by simp)⟩
    · exact amid
  | start index | finish index value | gather => exact own.elim

theorem IsAmid.replay (amid : phase.IsAmid position) {events : List (Event α)}
    (own : ∀ event ∈ events, event.IsDisturbance position) : (phase.replay rules events).IsAmid position := by
  induction events generalizing phase with
  | nil => exact amid
  | cons event events ih =>
    have next : (phase.step rules event).IsAmid position := amid.disturbed (own event List.mem_cons_self)
    exact ih next fun later member => own later (List.mem_cons_of_mem _ member)

/-- A task that has finished no longer runs. -/
theorem IsAmid.finish (amid : phase.IsAmid position) (value : α) :
    (phase.finish position value).IsAmid position ∧
      ∀ since, (phase.finish position value).tasks[position]? ≠ some (.running since) := by
  unfold Phase.finish
  split
  · next found =>
    refine ⟨amid.setTask (by simp), fun since => ?_⟩
    rw [getElem?_setTask found, if_pos rfl]
    simp
  · next other => exact ⟨amid, other⟩

/-- When the collector has looked and still watches, it saw tasks that are pending and no signal that it minds. -/
theorem check_watching (watching : (phase.check rules).mode = .watching) :
    phase.mode = .watching ∧ phase.hasPending = true ∧ (rules.cancellable = true → phase.cancelled = false) ∧
      phase.check rules = { phase with now := some phase.clock } := by
  unfold Phase.check at watching ⊢
  split at watching
  · next stopped => exact absurd watching stopped
  · next going =>
    rw [if_neg going]
    split at watching
    · exact absurd watching (by simp)
    · next busy =>
      rw [if_neg busy]
      split at watching
      · exact absurd watching (by simp [Phase.interrupt])
      · next silent =>
        rw [if_neg silent]
        split at watching
        · exact absurd watching (by simp [Phase.interrupt])
        · next early =>
          rw [if_neg early]
          refine ⟨watching, by simpa using busy, fun minds => ?_, rfl⟩
          simpa [minds] using silent

theorem IsAt.of_check
    (ahead : phase.mode = .watching → ∀ index task, phase.tasks[index]? = some task → task.isPending = true →
      position ≤ index ∧ task = .waiting) : (phase.step rules .check).IsAt rules position := by
  rw [step]
  refine ⟨fun watching => ?_, fun watching => ?_, fun watching => ?_, fun watching => ?_⟩ <;>
    obtain ⟨going, busy, silent, same⟩ := check_watching watching <;> rw [same]
  · rfl
  · exact silent
  · exact busy
  · exact ahead going

theorem IsAmid.close (amid : phase.IsAmid position)
    (rested : ∀ since, phase.tasks[position]? ≠ some (.running since)) :
    ((phase.step rules .gather).step rules .check).IsAt rules (position + 1) := by
  refine IsAt.of_check fun watching index task found pending => ?_
  have going : phase.mode = .watching ∧ phase.now.isSome = true := by
    by_contra stopped
    rw [step, gather, if_neg (by simpa using stopped)] at watching
    exact stopped ⟨watching, amid.looked watching⟩
  rw [step, tasks_gather phase going.1 going.2, List.getElem?_map, Option.map_eq_some_iff] at found
  obtain ⟨old, before, rfl⟩ := found
  have was : old.isPending = true := by
    cases old with
    | absent | closed => exact pending
    | waiting | running since | done value => rfl
  rcases amid.others going.1 index old before was with ⟨rfl, moved⟩ | ⟨behind, rfl⟩
  · cases old with
    | absent | closed => exact absurd was (by simp [Task.isPending])
    | waiting => exact absurd rfl moved
    | running since => exact absurd before (rested since)
    | done value => exact absurd pending (by simp [Task.close, Task.isPending])
  · exact ⟨behind, rfl⟩

theorem isAt_of_stopped (stopped : phase.mode ≠ .watching) : phase.IsAt rules position where
  looked watching := absurd watching stopped
  heeded watching := absurd watching stopped
  busy watching := absurd watching stopped
  ahead watching := absurd watching stopped

/-- The next task has its turn. -/
theorem IsAt.turn (reached : phase.IsAt rules position) {events : List (Event α)}
    (turn : phase.IsTurn rules position events) : (phase.replay rules events).IsAt rules (position + 1) := by
  have begun := reached.start
  cases turn with
  | @worked disturbances own value =>
    have ran : ((phase.step rules (.start position)).replay rules disturbances).IsAmid position := begun.replay own
    have worked := ran.finish value
    have shape : phase.replay rules (.start position :: (disturbances ++ [.finish position value, .gather, .check])) =
        ((((phase.step rules (.start position)).replay rules disturbances).finish position value).step rules
          .gather).step rules .check := by
      rw [Phase.replay, List.foldl_cons, List.foldl_append]
      rfl
    rw [shape]
    exact worked.1.close worked.2
  | @skipped value done =>
    refine begun.close fun since runs => ?_
    exact absurd (done.symm.trans runs) (by simp)
  | passed rests =>
    have stops {new : Task α} (found : phase.tasks[position]? = some .waiting) (pending : new.isPending = true)
        (same : phase.start rules position = phase.setTask position new) : phase.mode ≠ .watching := by
      intro watching
      have rested := rests watching new (by rw [step, same, getElem?_setTask found, if_pos rfl])
      exact absurd pending (by simp [rested])
    change (phase.start rules position).IsAt rules (position + 1)
    rcases start_cases rules phase position with ⟨other, same⟩ | ⟨found, same⟩ | ⟨found, value, _, _, same⟩
    · rw [same]
      refine { reached with ahead := fun watching index task found pending => ?_ }
      obtain ⟨behind, waiting⟩ := reached.ahead watching index task found pending
      have apart : index ≠ position := by
        rintro rfl
        exact other (waiting ▸ found)
      exact ⟨by omega, waiting⟩
    · have stopped := stops found rfl same
      rw [same]
      exact isAt_of_stopped stopped
    · have stopped := stops found rfl same
      rw [same]
      exact isAt_of_stopped stopped

/-- When all tasks had their turns the phase ends. -/
theorem IsAt.mode_release (reached : phase.IsAt rules position) (all : phase.tasks.length ≤ position) :
    (phase.step rules .release).mode = .ended := by
  rw [step, release]
  cases mode : phase.mode with
  | watching =>
    obtain ⟨task, member, pending⟩ := List.any_eq_true.mp (reached.busy mode)
    obtain ⟨index, found⟩ := List.getElem?_of_mem member
    have behind := (reached.ahead mode index task found pending).1
    have bound := (List.getElem?_eq_some_iff.mp found).1
    omega
  | draining => rfl
  | ended => simpa using mode

theorem IsTurn.exists_rest {events : List (Event α)} (turn : phase.IsTurn rules position events) :
    ∃ rest, events = .start position :: rest ∧ ∀ event ∈ rest, ∀ index, event ≠ .start index := by
  cases turn with
  | @worked disturbances own value =>
    refine ⟨_, rfl, fun event member index => ?_⟩
    rintro rfl
    rcases List.mem_append.mp member with inside | last
    · exact own _ inside
    · exact absurd last (by simp)
  | skipped done => exact ⟨_, rfl, by simp⟩
  | passed rests => exact ⟨[], rfl, by simp⟩

/-- No task is skipped as long as nothing interrupts the phase, so all values come from tasks that finished. -/
theorem IsAt.isPossible {possible : Nat → α → Prop} (reached : phase.IsAt rules position) (orderly : phase.IsOrderly)
    (minds : rules.cancellable = true ∨ rules.skipped = none) {events : List (Event α)}
    (turn : phase.IsTurn rules position events) (can : ∀ event ∈ events, event.IsPossible possible)
    (sound : phase.halt = none → phase.IsPossible possible)
    (uninterrupted : (phase.replay rules events).halt = none) : (phase.replay rules events).IsPossible possible := by
  obtain ⟨rest, rfl, others⟩ := turn.exists_rest
  have before : phase.halt = none := by
    by_contra halted
    have later := (precedes_replay rules phase (.start position :: rest)).halted (Option.isSome_iff_ne_none.mpr halted)
    exact absurd later (by simp [uninterrupted])
  have begun : (phase.start rules position).IsPossible possible := by
    rcases start_cases rules phase position with ⟨_, same⟩ | ⟨_, same⟩ | ⟨found, value, skips, stops, same⟩ <;>
      rw [same]
    · exact sound before
    · exact (sound before).setTask fun value given => absurd given (by simp)
    · -- a task waits, so the collector watches, and it has heeded the signal
      have watching : phase.mode = .watching := by
        cases mode : phase.mode with
        | watching => rfl
        | draining => exact absurd (orderly.draining mode) (by simp [before])
        | ended =>
          have nothing := orderly.ended before mode
          rw [hasPending_of_getElem? found rfl] at nothing
          exact absurd nothing (by decide)
      have silent := reached.heeded watching (minds.resolve_right (by simp [skips]))
      exact absurd stops (by simp [isStopping, silent, before])
  exact begun.replay (.inr others) fun event member => can event (List.mem_cons_of_mem _ member)

/-- A property of events that all have which the worker and the collector bring about by themselves. -/
structure IsRoutine (holds : Event α → Prop) : Prop where
  start : ∀ index, holds (.start index)
  check : holds .check
  gather : holds .gather
  release : holds .release

/-- The values that tasks may finish with. -/
abbrev Finishes (holds : Event α → Prop) (index : Nat) (value : α) : Prop := holds (.finish index value)

theorem isPossible_of_holds {holds : Event α → Prop} {event : Event α} (here : holds event) :
    event.IsPossible (Finishes holds) := by
  cases event with
  | finish index value => exact here
  | cancel | advance | start | check | expire | gather | release => trivial

/-- A phase in which so many tasks have had their turns since its start. -/
structure IsPlayed (rules : Rules α) (holds : Event α → Prop) (start : Phase α) (position : Nat)
    (phase : Phase α) : Prop where
  history : ∃ events, (∀ event ∈ events, holds event) ∧ start.replay rules events = phase
  reached : phase.IsAt rules position
  sound : phase.halt = none → phase.IsPossible (Finishes holds)

variable {holds : Event α → Prop} {start : Phase α}

theorem IsOpening.isPlayed (opening : start.IsOpening) (routine : IsRoutine holds) :
    IsPlayed rules holds start 0 (start.step rules .check) where
  history := ⟨[.check], by simp [routine.check], rfl⟩
  reached := by
    refine IsAt.of_check fun _ index task found pending => ⟨Nat.zero_le _, ?_⟩
    rcases opening.tasks task (List.mem_of_getElem? found) with waiting | rfl
    · exact waiting
    · exact absurd pending (by simp [Task.isPending])
  sound _ := opening.isPossible.of_change (change_check rules start) (by simp)

namespace IsPlayed

variable {events : List (Event α)}

theorem isOrderly (opening : start.IsOpening) (played : IsPlayed rules holds start position phase) :
    phase.IsOrderly := by
  obtain ⟨events, _, rfl⟩ := played.history
  exact opening.isOrderly.replay rules events

theorem precedes (played : IsPlayed rules holds start position phase) : start.Precedes phase := by
  obtain ⟨events, _, rfl⟩ := played.history
  exact precedes_replay rules start events

theorem turn (opening : start.IsOpening) (minds : rules.cancellable = true ∨ rules.skipped = none)
    (played : IsPlayed rules holds start position phase) (turn : phase.IsTurn rules position events)
    (can : ∀ event ∈ events, holds event) : IsPlayed rules holds start (position + 1) (phase.replay rules events) where
  history := by
    obtain ⟨earlier, could, rfl⟩ := played.history
    exact ⟨earlier ++ events, List.forall_mem_append.mpr ⟨could, can⟩, List.foldl_append⟩
  reached := played.reached.turn turn
  sound := played.reached.isPossible (played.isOrderly opening) minds turn
    (fun event member => isPossible_of_holds (can event member)) played.sound

/-- The phase at its end is one that events led to. -/
theorem release (routine : IsRoutine holds) (played : IsPlayed rules holds start position phase)
    (all : start.tasks.length ≤ position) :
    ∃ events, (∀ event ∈ events, holds event) ∧ start.replay rules events = phase.step rules .release ∧
      (start.replay rules events).mode = .ended ∧
      ((start.replay rules events).halt = none → (start.replay rules events).IsPossible (Finishes holds)) := by
  obtain ⟨events, could, same⟩ := played.history
  have shape : start.replay rules (events ++ [.release]) = phase.step rules .release := by
    rw [← same]
    exact List.foldl_append
  have last : ∀ event ∈ [Event.release], holds event := by simp [routine.release]
  refine ⟨events ++ [.release], List.forall_mem_append.mpr ⟨could, last⟩, shape, ?_, ?_⟩
  · rw [shape]
    exact played.reached.mode_release (played.precedes.length ▸ all)
  · rw [shape]
    intro uninterrupted
    have before : phase.halt = none := by
      simp only [step, Phase.release] at uninterrupted
      split at uninterrupted <;> exact uninterrupted
    exact (played.sound before).of_change (change_step rules phase .release) (by simp)

end IsPlayed

end Phase

end Prism.Run
