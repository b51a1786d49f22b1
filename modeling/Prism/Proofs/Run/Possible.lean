import Prism.Proofs.Run.Settlement

namespace Prism.Run

variable {α : Type}

/-- A task finishes only with a value that is possible at its position. -/
def Event.IsPossible (possible : Nat → α → Prop) : Event α → Prop
  | .finish index value => possible index value
  | .cancel | .advance _ | .start _ | .check | .expire _ | .gather | .release => True

/-- A task that is skipped gives a value that is possible everywhere. -/
def Rules.IsPossible (possible : Nat → α → Prop) (rules : Rules α) : Prop :=
  ∀ value, rules.skipped = some value → ∀ index, possible index value

namespace Phase

/-- Whatever the tasks gave is possible at their positions. -/
structure IsPossible (possible : Nat → α → Prop) (phase : Phase α) : Prop where
  done : ∀ index value, phase.tasks[index]? = some (.done value) → possible index value
  collected : ∀ index value, (index, Settlement.collected value) ∈ phase.settlements → possible index value

namespace IsPossible

variable {possible : Nat → α → Prop} {phase next : Phase α} {rules : Rules α}

theorem setTask (sound : phase.IsPossible possible) {index : Nat} {task : Task α}
    (right : ∀ value, task = .done value → possible index value) :
    (phase.setTask index task).IsPossible possible where
  done other value place := by
    rw [Phase.setTask, List.getElem?_set] at place
    split at place
    · next same =>
      split at place
      · exact same ▸ right value (Option.some.inj place)
      · exact absurd place (by simp)
    · exact sound.done other value place
  collected := sound.collected

theorem collect (sound : phase.IsPossible possible) : phase.collect.IsPossible possible where
  done index value place := by
    simp only [Phase.collect, List.getElem?_map, Option.map_eq_some_iff] at place
    obtain ⟨task, _, closing⟩ := place
    cases task <;> simp [Task.close] at closing
  collected index value member := by
    rcases List.mem_append.mp member with before | now
    · exact sound.collected index value before
    · obtain ⟨place, result, here, found, same⟩ := mem_doneFrom.mp now
      obtain rfl : index = place := by omega
      exact Settlement.collected.inj same ▸ sound.done index result found

theorem interrupt (sound : phase.IsPossible possible) (kind : ErrorKind) :
    (phase.interrupt kind).IsPossible possible where
  done index value place := by
    simp only [Phase.interrupt, List.getElem?_map, Option.map_eq_some_iff] at place
    obtain ⟨task, found, revoked⟩ := place
    cases task with
    | done result => exact sound.done index value (found.trans (congrArg some revoked))
    | absent | waiting | running since | closed => simp [Task.revoke] at revoked
  collected := sound.collected

theorem concluded (sound : phase.IsPossible possible) : phase.concluded.IsPossible possible := by
  unfold Phase.concluded
  split
  · exact sound
  · exact { sound with }

theorem of_change (sound : phase.IsPossible possible) {event : Event α} (change : Change rules phase event next)
    (right : ∀ index value, event = .finish index value ∨
      event = .start index ∧ rules.skipped = some value ∧ phase.isStopping = true → possible index value) :
    next.IsPossible possible := by
  cases change with
  | aside => exact { sound with }
  | moved _ _ _ given => exact sound.setTask fun value same => right _ value (given value same)
  | idle => exact { sound with }
  | interrupted _ _ kind => exact sound.interrupt kind
  | @expired index =>
    have closed : (phase.setTask index .closed).IsPossible possible :=
      sound.setTask fun value same => absurd same (by simp)
    refine concluded ⟨closed.done, fun other value member => ?_⟩
    rcases List.mem_append.mp member with before | now
    · exact sound.collected other value before
    · simp at now
  | gathered => exact concluded { sound.collect with }
  | released => exact { sound.collect with }

/-- One event keeps what was given possible. -/
theorem step (sound : phase.IsPossible possible) {event : Event α}
    (skips : rules.IsPossible possible ∨ ∀ index, event ≠ .start index) (can : event.IsPossible possible) :
    (phase.step rules event).IsPossible possible := by
  refine sound.of_change (change_step rules phase event) fun index value given => ?_
  rcases given with rfl | ⟨starts, skipped, _⟩
  · exact can
  · exact (skips.resolve_right fun other => other index starts) value skipped index

/-- So does a whole history. -/
theorem replay (sound : phase.IsPossible possible) {events : List (Event α)}
    (skips : rules.IsPossible possible ∨ ∀ event ∈ events, ∀ index, event ≠ .start index)
    (can : ∀ event ∈ events, event.IsPossible possible) : (phase.replay rules events).IsPossible possible := by
  induction events generalizing phase with
  | nil => exact sound
  | cons event events ih =>
    rw [List.forall_mem_cons] at can skips
    exact ih (sound.step (skips.imp_right And.left) can.1) (skips.imp_right And.right) can.2

end IsPossible

theorem IsOpening.isPossible {start : Phase α} (opening : start.IsOpening) {possible : Nat → α → Prop} :
    start.IsPossible possible where
  done index value place := by
    rcases opening.tasks _ (List.mem_of_getElem? place) with waiting | absent
    · exact absurd waiting (by simp)
    · exact absurd absent (by simp)
  collected index value member := by simp [opening.settlements] at member

end Phase

end Prism.Run
