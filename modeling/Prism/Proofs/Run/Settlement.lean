import Mathlib
import Prism.Run.Outcome

namespace Prism.Run

variable {α : Type}

/-- Whether there is a task at all. -/
def Task.isThere : Task α → Bool
  | .absent => false
  | .waiting | .running _ | .done _ | .closed => true

theorem Task.isThere_of_isPending {task : Task α} (pending : task.isPending = true) :
    task.isThere = true := by
  cases task with
  | absent => exact absurd pending Bool.false_ne_true
  | waiting | running since | done result | closed => rfl

namespace Phase

section Tasks

variable {phase : Phase α}

theorem mem_doneFrom {position index : Nat} {settlement : Settlement α} {tasks : List (Task α)} :
    (index, settlement) ∈ doneFrom position tasks ↔
      ∃ place result, index = position + place ∧ tasks[place]? = some (.done result) ∧
        settlement = .collected result := by
  induction tasks generalizing position with
  | nil => simp [doneFrom]
  | cons task tasks ih =>
    have later : (index, settlement) ∈ doneFrom (position + 1) tasks ↔
        ∃ place result, index = position + (place + 1) ∧ (task :: tasks)[place + 1]? = some (.done result) ∧
          settlement = .collected result := by
      simp only [ih, List.getElem?_cons_succ, Nat.add_assoc, Nat.add_comm 1]
    have split : (∃ place result, index = position + place ∧ (task :: tasks)[place]? = some (.done result) ∧
          settlement = .collected result) ↔
        (∃ result, index = position ∧ task = .done result ∧ settlement = .collected result) ∨
          ∃ place result, index = position + (place + 1) ∧
            (task :: tasks)[place + 1]? = some (.done result) ∧ settlement = .collected result := by
      constructor
      · rintro ⟨place, result, here, found, same⟩
        cases place with
        | zero => exact Or.inl ⟨result, here, by simpa using found, same⟩
        | succ place => exact Or.inr ⟨place, result, here, found, same⟩
      · rintro (⟨result, here, found, same⟩ | ⟨place, result, found⟩)
        · exact ⟨0, result, here, by simp [found], same⟩
        · exact ⟨place + 1, result, found⟩
    rw [split, ← later]
    cases task <;> simp [doneFrom, Task.value?]

theorem getElem?_map_close {tasks : List (Task α)} {index : Nat} :
    (tasks.map Task.close)[index]? = some .closed ↔
      tasks[index]? = some .closed ∨ ∃ result, tasks[index]? = some (.done result) := by
  rw [List.getElem?_map]
  cases tasks[index]? with
  | none => simp
  | some task => cases task <;> simp [Task.close]

theorem hasPending_of_getElem? {index : Nat} {task : Task α} (found : phase.tasks[index]? = some task)
    (pending : task.isPending = true) : phase.hasPending = true :=
  List.any_eq_true.mpr ⟨task, List.mem_of_getElem? found, pending⟩

theorem getElem?_setTask {index other : Nat} {old task : Task α} (found : phase.tasks[index]? = some old) :
    (phase.setTask index task).tasks[other]? =
      if index = other then some task else phase.tasks[other]? := by
  have bound := (List.getElem?_eq_some_iff.mp found).1
  split
  · next same =>
    subst same
    exact List.getElem?_set_self bound
  · next different => exact List.getElem?_set_ne different

theorem exists_concluded (phase : Phase α) : ∃ mode, phase.concluded = { phase with mode } := by
  unfold concluded
  split
  · exact ⟨phase.mode, rfl⟩
  · exact ⟨.ended, rfl⟩

theorem tasks_gather (phase : Phase α) (watching : phase.mode = .watching) (now : phase.now.isSome = true) :
    phase.gather.tasks = phase.tasks.map Task.close := by
  obtain ⟨mode, same⟩ := exists_concluded { phase.collect with now := none }
  rw [gather, if_pos (by simp [watching, now]), same]
  rfl

end Tasks

/-- The collector looked at the clock and sees that a task runs longer than it may. -/
def IsOverdue (rules : Rules α) (phase : Phase α) (index : Nat) : Prop :=
  ∃ now budget since, phase.mode = .watching ∧ phase.now = some now ∧ rules.budget = some budget ∧
    phase.tasks[index]? = some (.running since) ∧ (now - since).lt budget = false

theorem expire_of_isOverdue {rules : Rules α} {phase : Phase α} {index : Nat} (late : phase.IsOverdue rules index) :
    phase.expire rules index = concluded { phase.setTask index .closed with
      settlements := phase.settlements ++ [(index, .expired)] } := by
  obtain ⟨now, budget, since, watching, looked, limited, found, long⟩ := late
  simp only [expire, watching, looked, limited, found, long]
  rfl

theorem expire_of_not_isOverdue {rules : Rules α} {phase : Phase α} {index : Nat}
    (early : ¬ phase.IsOverdue rules index) : phase.expire rules index = phase := by
  unfold expire
  split
  · next watching looked limited found =>
    split
    · rfl
    · next long => exact absurd ⟨_, _, _, watching, looked, limited, found, (Bool.not_eq_true _).mp long⟩ early
  · rfl

/-- The ways in which an event changes a phase, and what each of them takes. -/
inductive Change (rules : Rules α) (phase : Phase α) (event : Event α) : Phase α → Prop
  | aside (clock : Number) {cancelled : Bool} (now : Option Number)
      (signal : cancelled = true ↔ phase.cancelled = true ∨ event = .cancel) :
      Change rules phase event { phase with clock, cancelled, now }
  | moved {index : Nat} {old new : Task α} (found : phase.tasks[index]? = some old) (was : old.isPending = true)
      (stays : new.isPending = true) (right : ∀ value, new = .done value →
        event = .finish index value ∨ event = .start index ∧ rules.skipped = some value ∧ phase.isStopping = true) :
      Change rules phase event (phase.setTask index new)
  | idle (watching : phase.mode = .watching) (nothing : phase.hasPending = false) :
      Change rules phase event { phase with mode := .ended }
  | interrupted (watching : phase.mode = .watching) (busy : phase.hasPending = true) (kind : ErrorKind)
      (reason : phase.cancelled = true ∨ rules.deadline ≠ none) : Change rules phase event (phase.interrupt kind)
  | expired {index : Nat} {since : Number} (watching : phase.mode = .watching) (limited : rules.budget ≠ none)
      (found : phase.tasks[index]? = some (.running since)) :
      Change rules phase event (concluded { phase.setTask index .closed with
        settlements := phase.settlements ++ [(index, .expired)] })
  | gathered (watching : phase.mode = .watching) :
      Change rules phase event (concluded { phase.collect with now := none })
  | released (draining : phase.mode = .draining) : Change rules phase event { phase.collect with mode := .ended }

/-- A task that waits starts, or is skipped when the run is being stopped. -/
theorem start_cases (rules : Rules α) (phase : Phase α) (index : Nat) :
    phase.tasks[index]? ≠ some .waiting ∧ phase.start rules index = phase ∨
    phase.tasks[index]? = some .waiting ∧ phase.start rules index = phase.setTask index (.running phase.clock) ∨
    phase.tasks[index]? = some .waiting ∧ ∃ value, rules.skipped = some value ∧ phase.isStopping = true ∧
      phase.start rules index = phase.setTask index (.done value) := by
  unfold start
  split
  · next found =>
    split
    · next value skips =>
      split
      · next stops => exact Or.inr (Or.inr ⟨found, value, skips, stops, rfl⟩)
      · exact Or.inr (Or.inl ⟨found, rfl⟩)
    · exact Or.inr (Or.inl ⟨found, rfl⟩)
  · next other => exact Or.inl ⟨other, rfl⟩

theorem change_check (rules : Rules α) (phase : Phase α) : Change rules phase .check (phase.check rules) := by
  unfold check
  split
  · exact .aside _ _ (by simp)
  · next watching =>
    rw [ne_eq, not_not] at watching
    split
    · next nothing => exact .idle watching ((Bool.not_eq_true' _).mp nothing)
    · next busy =>
      have busy : phase.hasPending = true := by simpa using busy
      split
      · next stops => exact .interrupted watching busy _ (.inl (Bool.and_eq_true_iff.mp stops).2)
      · split
        · next late => exact .interrupted watching busy _ (.inr fun none => by simp [none] at late)
        · exact .aside _ _ (by simp)

theorem change_step (rules : Rules α) (phase : Phase α) (event : Event α) :
    Change rules phase event (phase.step rules event) := by
  cases event with
  | cancel => exact .aside _ _ (by simp)
  | advance amount => exact .aside _ _ (by simp)
  | start index =>
    rw [step]
    rcases start_cases rules phase index with ⟨_, same⟩ | ⟨found, same⟩ | ⟨found, value, skips, stops, same⟩ <;>
      rw [same]
    · exact .aside _ _ (by simp)
    · exact .moved found rfl rfl (by simp)
    · exact .moved found rfl rfl fun other given => Or.inr ⟨rfl, Task.done.inj given ▸ skips, stops⟩
  | finish index value =>
    simp only [step, finish]
    split
    · next found => exact .moved found rfl rfl fun other given => Or.inl (Task.done.inj given ▸ rfl)
    · exact .aside _ _ (by simp)
  | check => exact change_check rules phase
  | expire index =>
    by_cases late : phase.IsOverdue rules index
    · rw [step, expire_of_isOverdue late]
      obtain ⟨now, budget, since, watching, _, limited, found, _⟩ := late
      exact .expired watching (by simp [limited]) found
    · rw [step, expire_of_not_isOverdue late]
      exact .aside _ _ (by simp)
  | gather =>
    simp only [step, gather]
    split
    · next watching =>
      simp only [Bool.and_eq_true, decide_eq_true_eq] at watching
      exact .gathered watching.1
    · exact .aside _ _ (by simp)
  | release =>
    simp only [step, release]
    split
    · next draining => exact .released draining
    · exact .aside _ _ (by simp)

theorem getElem?_map_revoke {tasks : List (Task α)} {index : Nat} {task : Task α} (found : tasks[index]? = some task) :
    (tasks.map Task.revoke)[index]? = some task.revoke := by
  rw [List.getElem?_map, found]
  rfl

theorem any_isThere_map {f : Task α → Task α} (keeps : ∀ task, (f task).isThere = task.isThere) (tasks : List (Task α))
    (index : Nat) : (tasks.map f)[index]?.any Task.isThere = tasks[index]?.any Task.isThere := by
  rw [List.getElem?_map]
  cases tasks[index]? with
  | none => rfl
  | some task => exact keeps task

/-- The second phase comes after the first: it has the same tasks, those that are no longer pending stay as they are,
an end, an interruption and the signal to stop last, and only tasks that are pending are settled, while the phase has
not ended. -/
structure Precedes (phase next : Phase α) : Prop where
  length : next.tasks.length = phase.tasks.length
  there : ∀ index : Nat, next.tasks[index]?.any Task.isThere = phase.tasks[index]?.any Task.isThere
  rests : ∀ (index : Nat) (task : Task α), phase.tasks[index]? = some task → task.isPending = false →
    next.tasks[index]? = some task
  ended : phase.mode = .ended → next.mode = .ended
  halted : phase.halt.isSome = true → next.halt.isSome = true
  signalled : phase.cancelled = true → next.cancelled = true
  settlements : ∃ more, next.settlements = phase.settlements ++ more ∧ ∀ index settlement, (index, settlement) ∈ more →
    phase.mode ≠ .ended ∧ ∃ task, phase.tasks[index]? = some task ∧ task.isPending = true

namespace Precedes

variable {phase next last : Phase α}

/-- A phase with the same tasks that settles nothing. -/
theorem of_tasks (same : next.tasks = phase.tasks) (ended : phase.mode = .ended → next.mode = .ended)
    (halt : next.halt = phase.halt) (signalled : phase.cancelled = true → next.cancelled = true)
    (settlements : next.settlements = phase.settlements) : phase.Precedes next :=
  ⟨by rw [same], fun _ => by rw [same], fun _ _ found _ => same ▸ found, ended, by simp [halt], signalled, [],
    by rw [settlements, List.append_nil], by simp⟩

protected theorem refl (phase : Phase α) : phase.Precedes phase := of_tasks rfl id rfl id rfl

protected theorem trans (first : phase.Precedes next) (second : next.Precedes last) : phase.Precedes last := by
  obtain ⟨more, grown, pending⟩ := first.settlements
  obtain ⟨rest, grownToo, pendingToo⟩ := second.settlements
  refine ⟨second.length.trans first.length, fun index => (second.there index).trans (first.there index),
    fun index task found resting => ?_, fun finished => second.ended (first.ended finished),
    fun halt => second.halted (first.halted halt), fun signal => second.signalled (first.signalled signal),
    more ++ rest, by rw [grownToo, grown, List.append_assoc], ?_⟩
  · exact second.rests index task (first.rests index task found resting) resting
  · intro index settlement member
    rcases List.mem_append.mp member with early | late
    · exact pending index settlement early
    · obtain ⟨going, task, found, isPending⟩ := pendingToo index settlement late
      refine ⟨fun finished => going (first.ended finished), ?_⟩
      have bound : index < phase.tasks.length := by
        rw [← first.length]
        exact (List.getElem?_eq_some_iff.mp found).1
      have place := List.getElem?_eq_getElem bound
      refine ⟨phase.tasks[index], place, ?_⟩
      -- a task that was not pending before would not be so now
      by_contra resting
      have kept := first.rests index _ place ((Bool.not_eq_true _).mp resting)
      obtain rfl := Option.some.inj (found.symm.trans kept)
      exact resting isPending

/-- What is done is collected, in a phase that has not ended. -/
theorem collect (phase : Phase α) (going : phase.mode ≠ .ended) (mode : Mode) (now : Option Number) :
    phase.Precedes { phase.collect with mode, now } where
  length := by simp [Phase.collect]
  there index := any_isThere_map (fun task => by cases task <;> rfl) phase.tasks index
  rests index task found resting := by
    simp only [Phase.collect, List.getElem?_map, found, Option.map_some, Option.some.injEq]
    cases task with
    | done value => exact absurd resting (by simp [Task.isPending])
    | absent | waiting | running since | closed => rfl
  ended finished := absurd finished going
  halted := id
  signalled := id
  settlements := by
    refine ⟨doneFrom 0 phase.tasks, rfl, fun index settlement member => ⟨going, ?_⟩⟩
    obtain ⟨place, value, here, found, _⟩ := mem_doneFrom.mp member
    rw [Nat.zero_add] at here
    exact ⟨.done value, here ▸ found, rfl⟩

theorem concluded (before : phase.Precedes next) : phase.Precedes next.concluded := by
  unfold Phase.concluded
  split
  · exact before
  · exact { before with ended := fun _ => rfl }

theorem setTask {index : Nat} {old new : Task α} (found : phase.tasks[index]? = some old) (was : old.isPending = true)
    (stays : new.isThere = true) : phase.Precedes (phase.setTask index new) := by
  refine ⟨by simp [Phase.setTask], fun other => ?_, fun other task place resting => ?_, id, id, id, [],
    (List.append_nil _).symm, by simp⟩
  · rw [getElem?_setTask found]
    split
    · next same => simp [← same, found, stays, Task.isThere_of_isPending was]
    · rfl
  · rw [getElem?_setTask found]
    split
    · next same =>
      subst same
      obtain rfl := Option.some.inj (found.symm.trans place)
      exact absurd was (by simp [resting])
    · exact place

theorem of_change {rules : Rules α} {event : Event α} (change : Change rules phase event next) :
    phase.Precedes next := by
  cases change with
  | aside _ _ signal => exact of_tasks rfl id rfl (fun was => signal.mpr (Or.inl was)) rfl
  | moved found was stays => exact setTask found was (Task.isThere_of_isPending stays)
  | idle => exact of_tasks rfl (fun _ => rfl) rfl id rfl
  | interrupted watching =>
    refine ⟨by simp [Phase.interrupt], any_isThere_map (fun task => by cases task <;> rfl) phase.tasks,
      fun index task found resting => ?_, fun finished => ?_, fun _ => rfl, id, [], (List.append_nil _).symm, by simp⟩
    · rw [Phase.interrupt, getElem?_map_revoke found]
      cases task with
      | absent | closed => rfl
      | waiting | running since | done value => exact absurd resting (by simp [Task.isPending])
    · exact absurd (watching.symm.trans finished) (by decide)
  | @expired index since watching _ found =>
    have going : phase.mode ≠ .ended := by rw [watching]; decide
    have closed : phase.Precedes (phase.setTask index .closed) := setTask found rfl rfl
    refine Precedes.concluded { closed with settlements := ⟨_, rfl, ?_⟩ }
    intro other settlement member
    obtain ⟨rfl, rfl⟩ := Prod.mk.inj (List.mem_singleton.mp member)
    exact ⟨going, _, found, rfl⟩
  | gathered watching => exact (collect phase (by rw [watching]; decide) _ _).concluded
  | released draining => exact collect phase (by rw [draining]; decide) _ _

end Precedes

theorem precedes_replay (rules : Rules α) (phase : Phase α) (events : List (Event α)) :
    phase.Precedes (phase.replay rules events) := by
  induction events generalizing phase with
  | nil => exact .refl phase
  | cons event events ih => exact (Precedes.of_change (change_step rules phase event)).trans (ih _)

/-- The settlements agree with the tasks: no task is settled twice, and what is settled is closed. As long as
nothing interrupts the phase, tasks are closed only by being settled, and none is left at the end. -/
structure IsOrderly (phase : Phase α) : Prop where
  once : (phase.settlements.map Prod.fst).Nodup
  closed : ∀ index settlement, (index, settlement) ∈ phase.settlements → phase.tasks[index]? = some .closed
  settled : phase.halt = none → ∀ index, phase.tasks[index]? = some .closed →
    ∃ settlement, (index, settlement) ∈ phase.settlements
  draining : phase.mode = .draining → phase.halt.isSome = true
  ended : phase.halt = none → phase.mode = .ended → phase.hasPending = false

theorem nodup_doneFrom (position : Nat) (tasks : List (Task α)) : ((doneFrom position tasks).map Prod.fst).Nodup := by
  induction tasks generalizing position with
  | nil => exact List.nodup_nil
  | cons task tasks ih =>
    rw [doneFrom]
    split
    · rw [List.map_cons, List.nodup_cons]
      refine ⟨fun member => ?_, ih _⟩
      obtain ⟨⟨index, settlement⟩, inside, same⟩ := List.mem_map.mp member
      obtain ⟨place, value, here, _, _⟩ := mem_doneFrom.mp inside
      simp only at same
      omega
    · exact ih _

namespace IsOrderly

variable {phase next : Phase α}

theorem concluded (orderly : phase.IsOrderly) : phase.concluded.IsOrderly := by
  unfold Phase.concluded
  split
  · exact orderly
  · next nothing =>
    exact { orderly with
      draining := fun drains => absurd drains (by simp)
      ended := fun _ _ => (Bool.not_eq_true _).mp nothing }

/-- A task that is pending is not settled. -/
theorem notMem_of_isPending (orderly : phase.IsOrderly) {index : Nat} {task : Task α}
    (found : phase.tasks[index]? = some task) (pending : task.isPending = true) :
    index ∉ phase.settlements.map Prod.fst := by
  intro member
  obtain ⟨⟨place, settlement⟩, inside, rfl⟩ := List.mem_map.mp member
  obtain rfl := Option.some.inj (found.symm.trans (orderly.closed _ _ inside))
  exact absurd pending (by simp [Task.isPending])

/-- What is done is collected. When the phase goes on or was interrupted, nothing need be said of its end. -/
theorem collect (orderly : phase.IsOrderly) {mode : Mode} (now : Option Number)
    (going : mode = .watching ∨ mode = .ended ∧ phase.halt.isSome = true) :
    { phase.collect with mode, now }.IsOrderly where
  once := by
    refine (List.map_append ▸ List.nodup_append.mpr ⟨orderly.once, nodup_doneFrom 0 phase.tasks, ?_⟩)
    rintro index before other now rfl
    obtain ⟨⟨place, settlement⟩, inside, rfl⟩ := List.mem_map.mp now
    obtain ⟨offset, value, here, found, _⟩ := mem_doneFrom.mp inside
    obtain rfl : place = offset := by omega
    exact orderly.notMem_of_isPending found rfl before
  closed index settlement member := by
    rcases List.mem_append.mp member with before | now
    · exact getElem?_map_close.mpr (Or.inl (orderly.closed index settlement before))
    · obtain ⟨place, value, here, found, _⟩ := mem_doneFrom.mp now
      obtain rfl : index = place := by omega
      exact getElem?_map_close.mpr (Or.inr ⟨value, found⟩)
  settled uninterrupted index place := by
    rcases getElem?_map_close.mp place with before | ⟨value, done⟩
    · obtain ⟨settlement, member⟩ := orderly.settled uninterrupted index before
      exact ⟨settlement, List.mem_append_left _ member⟩
    · exact ⟨.collected value, List.mem_append_right _ (mem_doneFrom.mpr ⟨index, value, by omega, done, rfl⟩)⟩
  draining drains := by
    rcases going with watching | ⟨finished, _⟩
    · exact absurd (watching.symm.trans drains) (by decide)
    · exact absurd (finished.symm.trans drains) (by decide)
  ended uninterrupted finished := by
    rcases going with watching | ⟨_, halted⟩
    · exact absurd (watching.symm.trans finished) (by decide)
    · exact absurd halted (by simp only [Phase.collect] at uninterrupted; simp [uninterrupted])

theorem of_change (orderly : phase.IsOrderly) {rules : Rules α} {event : Event α}
    (change : Change rules phase event next) : next.IsOrderly := by
  cases change with
  | aside => exact { orderly with }
  | @moved index old new found was stays =>
    refine ⟨orderly.once, fun other settlement member => ?_, fun uninterrupted other place => ?_, orderly.draining,
      fun uninterrupted finished => ?_⟩
    · rw [getElem?_setTask found, if_neg]
      · exact orderly.closed other settlement member
      · rintro rfl
        exact orderly.notMem_of_isPending found was (List.mem_map_of_mem member)
    · rw [getElem?_setTask found] at place
      split at place
      · rw [Option.some.inj place] at stays
        exact absurd stays (by simp [Task.isPending])
      · exact orderly.settled uninterrupted other place
    · have nothing := orderly.ended uninterrupted finished
      rw [hasPending_of_getElem? found was] at nothing
      exact absurd nothing (by decide)
  | idle watching nothing =>
    exact { orderly with draining := fun drains => absurd drains (by simp), ended := fun _ _ => nothing }
  | interrupted =>
    refine ⟨orderly.once, fun index settlement member => ?_, fun uninterrupted => ?_, fun _ => rfl,
      fun uninterrupted => ?_⟩
    · exact getElem?_map_revoke (orderly.closed index settlement member)
    · exact absurd uninterrupted (by simp [Phase.interrupt])
    · exact absurd uninterrupted (by simp [Phase.interrupt])
  | @expired index since watching _ found =>
    have fresh := orderly.notMem_of_isPending found rfl
    refine concluded ⟨?_, fun other settlement member => ?_, fun uninterrupted other place => ?_, orderly.draining,
      fun _ finished => absurd (watching.symm.trans finished) (by decide)⟩
    · rw [List.map_append, List.nodup_append]
      refine ⟨orderly.once, List.nodup_singleton _, fun place before other now same => ?_⟩
      have here : place = index := same.trans (List.mem_singleton.mp now)
      exact fresh (here ▸ before)
    · rw [getElem?_setTask found]
      rcases List.mem_append.mp member with before | now
      · split
        · rfl
        · exact orderly.closed other settlement before
      · rw [if_pos (Prod.mk.inj (List.mem_singleton.mp now)).1.symm]
    · rw [getElem?_setTask found] at place
      split at place
      · next same => exact ⟨.expired, List.mem_append_right _ (by simp [same])⟩
      · obtain ⟨settlement, member⟩ := orderly.settled uninterrupted other place
        exact ⟨settlement, List.mem_append_left _ member⟩
  | gathered watching => exact (orderly.collect none (Or.inl watching)).concluded
  | released draining => exact orderly.collect phase.now (Or.inr ⟨rfl, orderly.draining draining⟩)

theorem replay (orderly : phase.IsOrderly) (rules : Rules α) (events : List (Event α)) :
    (phase.replay rules events).IsOrderly := by
  induction events generalizing phase with
  | nil => exact orderly
  | cons event events ih => exact ih (orderly.of_change (change_step rules phase event))

/-- A phase that comes to its end uninterrupted has settled every task. -/
theorem exists_settlement (orderly : phase.IsOrderly) (uninterrupted : phase.halt = none)
    (finished : phase.mode = .ended) {index : Nat} (there : phase.tasks[index]?.any Task.isThere = true) :
    ∃ settlement, (index, settlement) ∈ phase.settlements := by
  obtain ⟨task, found, isThere⟩ := (Option.any_eq_true _ _).mp there
  have idle := orderly.ended uninterrupted finished
  cases task with
  | absent => exact absurd isThere Bool.false_ne_true
  | closed => exact orderly.settled uninterrupted index found
  | waiting | running since | done value =>
    rw [hasPending_of_getElem? found rfl] at idle
    exact absurd idle (by decide)

end IsOrderly

/-- A phase at its start: every task waits, except where there is none. -/
structure IsOpening (phase : Phase α) : Prop where
  tasks : ∀ task ∈ phase.tasks, task = .waiting ∨ task = .absent
  watching : phase.mode = .watching
  unlooked : phase.now = none
  uninterrupted : phase.halt = none
  settlements : phase.settlements = []

theorem IsOpening.isOrderly {phase : Phase α} (opening : phase.IsOpening) : phase.IsOrderly where
  once := by rw [opening.settlements]; exact List.nodup_nil
  closed index settlement member := by simp [opening.settlements] at member
  settled _ index place := by
    rcases opening.tasks _ (List.mem_of_getElem? place) with waiting | absent
    · exact absurd waiting (by simp)
    · exact absurd absent (by simp)
  draining drains := absurd (opening.watching.symm.trans drains) (by decide)
  ended _ finished := absurd (opening.watching.symm.trans finished) (by decide)

/-- In a whole history each task is settled at most once, only tasks that were handed in are, and once a task
is settled, taken back or abandoned nothing that happens later counts for it. -/
structure SettlesOnce (rules : Rules α) (start : Phase α) (events : List (Event α)) : Prop where
  once : ∀ index, (start.replay rules events).settlements.countP (·.1 = index) ≤ 1
  submitted : ∀ index settlement, (index, settlement) ∈ (start.replay rules events).settlements →
    start.tasks[index]? = some .waiting
  late : ∀ earlier later, events = earlier ++ later → ∀ index,
    ((∃ settlement, (index, settlement) ∈ (start.replay rules earlier).settlements) ∨
      (start.replay rules earlier).tasks[index]? = some .closed ∨ (start.replay rules earlier).mode = .ended) →
    (start.replay rules events).settlements.filter (·.1 = index) =
      (start.replay rules earlier).settlements.filter (·.1 = index)

theorem settlesOnce_of_isOpening {start : Phase α} (opening : start.IsOpening) (rules : Rules α)
    (events : List (Event α)) : start.SettlesOnce rules events where
  once index := by
    have once := (opening.isOrderly.replay rules events).once
    have count := List.nodup_iff_count_le_one.mp once index
    rwa [List.count, List.countP_map] at count
  submitted index settlement member := by
    obtain ⟨more, grown, pending⟩ := (precedes_replay rules start events).settlements
    rw [grown, opening.settlements, List.nil_append] at member
    obtain ⟨_, task, found, isPending⟩ := pending index settlement member
    rcases opening.tasks task (List.mem_of_getElem? found) with rfl | rfl
    · exact found
    · exact absurd isPending (by simp [Task.isPending])
  late earlier later split index given := by
    subst split
    have orderly := opening.isOrderly.replay rules earlier
    have done : (start.replay rules earlier).tasks[index]? = some .closed ∨
        (start.replay rules earlier).mode = .ended := by
      rcases given with ⟨settlement, member⟩ | other
      · exact Or.inl (orderly.closed index settlement member)
      · exact other
    have onward : start.replay rules (earlier ++ later) = (start.replay rules earlier).replay rules later :=
      List.foldl_append
    obtain ⟨more, grown, pending⟩ := (precedes_replay rules (start.replay rules earlier) later).settlements
    rw [onward, grown, List.filter_append, List.append_right_eq_self, List.filter_eq_nil_iff]
    rintro ⟨place, settlement⟩ member same
    obtain rfl : place = index := by simpa using same
    obtain ⟨going, task, found, isPending⟩ := pending place settlement member
    rcases done with closed | finished
    · obtain rfl := Option.some.inj (found.symm.trans closed)
      exact absurd isPending (by simp [Task.isPending])
    · exact going finished

end Phase

section Slots

theorem mem_of_lookup {β : Type} {pairs : List (Nat × β)} {index : Nat} {value : β}
    (found : pairs.lookup index = some value) : (index, value) ∈ pairs := by
  obtain ⟨front, back, shape, _⟩ := List.lookup_eq_some_iff.mp found
  simp [shape]

/-- The collector writes the slot of each task that it settles, one after the other. -/
def written {β : Type} (write : Nat → Settlement α → β → β) (slots : List β) (settlements : List (Nat × Settlement α)) :
    List β :=
  settlements.foldl (fun slots pair => slots.modify pair.1 (write pair.1 pair.2)) slots

/-- When no task is settled twice each slot is written by its own settlement alone. -/
theorem getElem?_written {β : Type} (write : Nat → Settlement α → β → β) (slots : List β)
    {settlements : List (Nat × Settlement α)} (once : (settlements.map Prod.fst).Nodup) (index : Nat) :
    (written write slots settlements)[index]? =
      slots[index]?.map fun slot =>
        ((settlements.lookup index).map fun settlement => write index settlement slot).getD slot := by
  induction settlements generalizing slots with
  | nil => simp [written]
  | cons pair settlements ih =>
    obtain ⟨place, settlement⟩ := pair
    rw [List.map_cons, List.nodup_cons] at once
    have rest := ih (slots.modify place (write place settlement)) once.2
    rw [written, List.foldl_cons]
    refine rest.trans ?_
    rw [List.getElem?_modify]
    by_cases same : index = place
    · subst same
      have absent : settlements.lookup index = none := by
        refine List.lookup_eq_none_iff.mpr fun pair member => ?_
        rw [bne_iff_ne]
        rintro rfl
        exact once.1 (List.mem_map.mpr ⟨pair, member, rfl⟩)
      simp [absent, Function.comp_def]
    · have other : (index == place) = false := beq_eq_false_iff_ne.mpr same
      simp [List.lookup_cons, other, Ne.symm same]

theorem lookup_of_mem {β : Type} {pairs : List (Nat × β)} (once : (pairs.map Prod.fst).Nodup) {index : Nat} {value : β}
    (member : (index, value) ∈ pairs) : pairs.lookup index = some value := by
  obtain ⟨other, found⟩ := Option.isSome_iff_exists.mp (List.lookup_isSome_iff.mpr ⟨_, member, beq_self_eq_true index⟩)
  have same := List.inj_on_of_nodup_map once (mem_of_lookup found) member rfl
  rw [found, (Prod.mk.inj same).2]

variable {spec : Specification} {settings : CompilerSettings} {targets : List Target}

theorem getElem?_generatedSlots {settlements : List (Nat × Settlement Slot)} {index : Nat} {target : Target}
    (place : targets[index]? = some target) : (generatedSlots spec settings targets settlements)[index]? =
      some (generatedSlot spec (budget settings) target (settlements.lookup index)) := by
  simp only [generatedSlots, List.getElem?_map, List.getElem?_zipIdx, place, Option.map_some, Nat.zero_add]

theorem getElem?_validatedSlots {slots : List Slot} {settlements : List (Nat × Settlement ValidationOutcome)}
    {index : Nat} {target : Target} {slot : Slot} (place : targets[index]? = some target)
    (filled : slots[index]? = some slot) : (validatedSlots settings targets slots settlements)[index]? =
      some (validatedSlot (budget settings) target slot (settlements.lookup index)) := by
  have both : (targets.zip slots)[index]? = some (target, slot) := List.getElem?_zip_eq_some.mpr ⟨place, filled⟩
  simp only [validatedSlots, List.getElem?_map, List.getElem?_zipIdx, both, Option.map_some, Nat.zero_add]

/-- A result in a slot of generation was collected, or tells that its target took too long. -/
theorem generatedSlots_cases {settlements : List (Nat × Settlement Slot)} {index : Nat} {target : Target}
    {result : GenerationResult} (place : targets[index]? = some target)
    (filled : (generatedSlots spec settings targets settlements)[index]? = some (some result)) :
    (index, .collected (some result)) ∈ settlements ∨
      result = GenerationResult.failed spec target (GenerationError.timeout target (budget settings)) "" 1 := by
  rw [getElem?_generatedSlots place, Option.some.injEq] at filled
  cases found : settlements.lookup index with
  | none => simp [found, generatedSlot] at filled
  | some settlement =>
    rw [found] at filled
    cases settlement with
    | collected slot =>
      obtain rfl : slot = some result := filled
      exact Or.inl (mem_of_lookup found)
    | expired => exact Or.inr (Option.some.inj filled).symm

variable (spec settings targets)

/-- What is written for a task of generation: its result if it gives one, or the failure of a target that took
too long. -/
def writeGenerated (index : Nat) : Settlement Slot → Slot → Slot
  | .collected (some result), _ => some result
  | .collected none, slot => slot
  | .expired, slot => match targets[index]? with
    | some target =>
      some (GenerationResult.failed spec target (GenerationError.timeout target (budget settings)) "" 1)
    | none => slot

/-- What is written for a task of validation. -/
def writeValidated (index : Nat) : Settlement ValidationOutcome → Slot → Slot
  | .collected outcome, slot => slot.map fun result => { result with validation := some outcome }
  | .expired, slot => match targets[index]? with
    | some target => slot.map (overdue (budget settings) target)
    | none => slot

variable {targets}

/-- Generation writes the slots that its settlements tell. -/
theorem written_generated {settlements : List (Nat × Settlement Slot)} (once : (settlements.map Prod.fst).Nodup) :
    written (writeGenerated spec settings targets) (targets.map fun _ => none) settlements =
      generatedSlots spec settings targets settlements := by
  refine List.ext_getElem? fun index => ?_
  rw [getElem?_written _ _ once, List.getElem?_map]
  cases place : targets[index]? with
  | none =>
    have outside := List.getElem?_eq_none_iff.mp place
    simpa [generatedSlots] using outside
  | some target =>
    rw [getElem?_generatedSlots place, Option.map_some, Option.map_some, Option.some.injEq]
    cases settlements.lookup index with
    | none => rfl
    | some settlement =>
      cases settlement with
      | collected slot => cases slot <;> rfl
      | expired => simp only [Option.map_some, Option.getD_some, writeGenerated, place, generatedSlot]

/-- Validation writes the slots that its settlements tell, when results without validation are dropped. -/
theorem written_validated {slots : List Slot} (length : slots.length = targets.length)
    {settlements : List (Nat × Settlement ValidationOutcome)} (once : (settlements.map Prod.fst).Nodup) :
    (written (writeValidated settings targets) slots settlements).map
        (fun slot => slot.filter fun result => result.validation.isSome) =
      validatedSlots settings targets slots settlements := by
  refine List.ext_getElem? fun index => ?_
  rw [List.getElem?_map, getElem?_written _ _ once]
  by_cases bound : index < targets.length
  · have inside : index < slots.length := length ▸ bound
    have place := List.getElem?_eq_getElem bound
    rw [getElem?_validatedSlots place (List.getElem?_eq_getElem inside), List.getElem?_eq_getElem inside,
      Option.map_some, Option.map_some, Option.some.injEq]
    cases slots[index] with
    | none =>
      cases settlements.lookup index with
      | none => rfl
      | some settlement => cases settlement <;> simp [writeValidated, place, validatedSlot]
    | some result =>
      cases settlements.lookup index with
      | none => simp [validatedSlot, Option.filter]
      | some settlement => cases settlement <;> simp [writeValidated, place, validatedSlot, overdue, Option.filter]
  · have outside : slots[index]? = none := List.getElem?_eq_none (by omega)
    rw [outside, List.getElem?_eq_none (by simp [validatedSlots]; omega)]
    rfl

end Slots

end Prism.Run
