import Prism.Result

namespace Prism.Run

inductive Task (α : Type) where
  | absent
  | waiting
  | running (since : Number)
  | done (value : α)
  | closed
  deriving Inhabited

inductive Settlement (α : Type) where
  | collected (value : α)
  | expired
  deriving Inhabited

/-- What the collector does: it watches, it waits a last time, or it is finished. -/
inductive Mode where
  | watching
  | draining
  | ended
  deriving DecidableEq, Repr, Inhabited

/-- What holds for all tasks of a phase: when it has to end, how long a task may take, whether the
collector minds the signal to stop, and what a task gives that starts when the run is being stopped;
without that it starts all the same. -/
structure Rules (α : Type) where
  deadline : Option Number := none
  budget : Option Number := none
  cancellable : Bool := true
  skipped : Option α := none

/-- A phase at one moment. `now` is the time of the last look at the clock. -/
structure Phase (α : Type) where
  clock : Number := 0
  cancelled : Bool := false
  tasks : List (Task α)
  mode : Mode := .watching
  now : Option Number := none
  halt : Option ErrorKind := none
  settlements : List (Nat × Settlement α) := []

inductive Event (α : Type) where
  | cancel
  | advance (amount : Number)
  | start (index : Nat)
  | finish (index : Nat) (value : α)
  | check
  | expire (index : Nat)
  | gather
  | release
  deriving Inhabited

namespace Task

def isPending {α : Type} : Task α → Bool
  | .absent | .closed => false
  | .waiting | .running _ | .done _ => true

/-- A task that has not started is taken back. -/
def revoke {α : Type} : Task α → Task α
  | .waiting => .closed
  | task => task

def value? {α : Type} : Task α → Option α
  | .done value => some value
  | _ => none

def close {α : Type} : Task α → Task α
  | .done _ => .closed
  | task => task

end Task

namespace Phase

variable {α : Type}

/-- Whether the run is being stopped, as tasks see it. -/
def isStopping (phase : Phase α) : Bool := phase.cancelled || phase.halt.isSome

def hasPending (phase : Phase α) : Bool := phase.tasks.any Task.isPending

def setTask (phase : Phase α) (index : Nat) (task : Task α) : Phase α :=
  { phase with tasks := phase.tasks.set index task }

/-- The collector ends when nothing is pending. -/
def concluded (phase : Phase α) : Phase α :=
  if phase.hasPending then phase else { phase with mode := .ended }

/-- The run is interrupted: tasks that have not started are taken back, and the others get a last
time to finish. -/
def interrupt (phase : Phase α) (kind : ErrorKind) : Phase α :=
  { phase with mode := .draining, halt := some kind, tasks := phase.tasks.map Task.revoke }

/-- The values of tasks that are done, with their positions. -/
def doneFrom (position : Nat) : List (Task α) → List (Nat × Settlement α)
  | [] => []
  | task :: tasks => match task.value? with
    | some value => (position, .collected value) :: doneFrom (position + 1) tasks
    | none => doneFrom (position + 1) tasks

def collect (phase : Phase α) : Phase α :=
  { phase with
    settlements := phase.settlements ++ doneFrom 0 phase.tasks
    tasks := phase.tasks.map Task.close }

/-- A task starts, or is skipped when the run is being stopped. -/
def start (rules : Rules α) (phase : Phase α) (index : Nat) : Phase α :=
  match phase.tasks[index]? with
  | some .waiting => match rules.skipped with
    | some value =>
      if phase.isStopping then phase.setTask index (.done value)
      else phase.setTask index (.running phase.clock)
    | none => phase.setTask index (.running phase.clock)
  | _ => phase

def finish (phase : Phase α) (index : Nat) (value : α) : Phase α :=
  match phase.tasks[index]? with
  | some (.running _) => phase.setTask index (.done value)
  | _ => phase

/-- The collector looks at the signal to stop, then at the clock. -/
def check (rules : Rules α) (phase : Phase α) : Phase α :=
  if phase.mode ≠ .watching then phase
  else if !phase.hasPending then { phase with mode := .ended }
  else if rules.cancellable && phase.cancelled then phase.interrupt .runCancelled
  else if rules.deadline.any fun deadline => deadline.le phase.clock then
    phase.interrupt .runTimeout
  else { phase with now := some phase.clock }

/-- A task that runs longer than it may is given up, when the collector looked at the clock. -/
def expire (rules : Rules α) (phase : Phase α) (index : Nat) : Phase α :=
  match phase.mode, phase.now, rules.budget, phase.tasks[index]? with
  | .watching, some now, some budget, some (.running since) =>
    if (now - since).lt budget then phase
    else
      let settled := phase.settlements ++ [(index, Settlement.expired)]
      Phase.concluded { phase.setTask index .closed with settlements := settled }
  | _, _, _, _ => phase

/-- The collector takes what is done and looks again. -/
def gather (phase : Phase α) : Phase α :=
  if phase.mode = .watching && phase.now.isSome then
    Phase.concluded { phase.collect with now := none }
  else phase

/-- The last time is over: what is done is taken, the rest is abandoned. -/
def release (phase : Phase α) : Phase α :=
  if phase.mode = .draining then { phase.collect with mode := .ended } else phase

def step (rules : Rules α) (phase : Phase α) : Event α → Phase α
  | .cancel => { phase with cancelled := true }
  | .advance amount => { phase with clock := phase.clock + amount }
  | .start index => phase.start rules index
  | .finish index value => phase.finish index value
  | .check => phase.check rules
  | .expire index => phase.expire rules index
  | .gather => phase.gather
  | .release => phase.release

def replay (rules : Rules α) (phase : Phase α) (events : List (Event α)) : Phase α :=
  events.foldl (step rules) phase

end Phase

end Prism.Run
