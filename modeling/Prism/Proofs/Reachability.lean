import Mathlib.Data.Fintype.EquivFin
import Mathlib.Data.Set.Finite.List
import Mathlib.Order.WellFounded
import Prism.Proofs.Structure
import Prism.View

namespace Prism

open Relation

namespace Flow

/-- A step of the first id names the second among those that come next. -/
def Leads (flow : Flow) (id next : String) : Prop :=
  ∃ step ∈ flow.steps, step.id = id ∧ next ∈ step.nextSteps

/-- No way along the steps comes back to where it began. -/
def IsAcyclic (flow : Flow) : Prop := ∀ id, ¬ TransGen flow.Leads id id

variable {spec : Specification} {convention : Convention} {flow : Flow}

/-- Every step that is no entry is led to by a step of the flow. -/
theorem isEntry_or_exists_leads (step : FlowStep) :
    (StepView.of spec convention flow step).isEntry = true ∨ ∃ other ∈ flow.steps, flow.Leads other.id step.id := by
  by_cases led : ∃ other ∈ flow.steps, step.id ∈ other.nextSteps
  · obtain ⟨other, member, next⟩ := led
    exact Or.inr ⟨other, member, other, member, rfl, next⟩
  · refine Or.inl ?_
    simpa [StepView.of] using led

/-- The ids of the steps from which an id is reached, as a type. -/
abbrev Source (flow : Flow) (id : String) : Type :=
  { source : String // source ∈ flow.steps.map (·.id) ∧ ReflTransGen flow.Leads source id }

theorem finite_source (flow : Flow) (id : String) : Finite (flow.Source id) :=
  (List.finite_toSet (flow.steps.map FlowStep.id)).subset fun _ member => member.1

/-- Without a cycle in front of an id, going back along the steps comes to an end. -/
theorem wellFounded_source {id : String}
    (straight : ∀ source, TransGen flow.Leads source source → ¬ ReflTransGen flow.Leads source id) :
    WellFounded fun source later : flow.Source id => TransGen flow.Leads source.1 later.1 := by
  have := flow.finite_source id
  have : IsTrans (flow.Source id) fun source later => TransGen flow.Leads source.1 later.1 :=
    ⟨fun _ _ _ => TransGen.trans⟩
  have : Std.Irrefl fun source later : flow.Source id => TransGen flow.Leads source.1 later.1 :=
    ⟨fun source around => straight source.1 around source.2.2⟩
  exact Finite.wellFounded_of_trans_of_irrefl _

/-- Every step is reached from an entry or from a cycle. -/
theorem exists_entry_or_cycle {step : FlowStep} (member : step ∈ flow.steps) :
    (∃ entry ∈ flow.steps, (StepView.of spec convention flow entry).isEntry = true ∧
      ReflTransGen flow.Leads entry.id step.id) ∨
    ∃ id, TransGen flow.Leads id id ∧ ReflTransGen flow.Leads id step.id := by
  by_contra neither
  obtain ⟨unentered, straight⟩ := not_or.mp neither
  have back := wellFounded_source fun id around reaches => straight ⟨id, around, reaches⟩
  obtain ⟨⟨first, among, reaches⟩, _, least⟩ :=
    back.has_min Set.univ ⟨⟨step.id, List.mem_map_of_mem member, .refl⟩, trivial⟩
  obtain ⟨earliest, inside, rfl⟩ := List.mem_map.mp among
  rcases isEntry_or_exists_leads earliest with entry | ⟨before, inBefore, leads⟩
  · exact unentered ⟨earliest, inside, entry, reaches⟩
  · exact least ⟨before.id, List.mem_map_of_mem inBefore, .head leads reaches⟩ trivial (.single leads)

end Flow

/-- The handlers of the entries are called, and each that is called calls those of its next steps. -/
inductive StepView.Called (views : List StepView) : StepView → Prop where
  | entry {view : StepView} (member : view ∈ views) (entry : view.isEntry = true) : Called views view
  | next {view other : StepView} (called : Called views view) (member : other ∈ views)
    (calls : other.handler ∈ view.nextHandlers) : Called views other

section Calls

variable {spec : Specification} {convention : Convention} {flow : Flow}

/-- Where every next step is a step of the flow, its handler is called. -/
theorem StepView.nextHandlers_of {step : FlowStep}
    (known : ∀ next ∈ step.nextSteps, ∃ other ∈ flow.steps, other.id = next) :
    (StepView.of spec convention flow step).nextHandlers = step.nextSteps.map convention.stepHandler := by
  have all : step.nextSteps.filter (fun next => flow.steps.any (·.id = next)) = step.nextSteps :=
    List.filter_eq_self.mpr fun next member => by simpa using known next member
  simp only [StepView.of, all]

theorem called_step (sound : spec.IsSound) (inFlows : flow ∈ spec.flows) {id next : String} (leads : flow.Leads id next)
    (called : ∀ step ∈ flow.steps, step.id = id →
      StepView.Called (StepView.all spec convention flow) (StepView.of spec convention flow step)) :
    ∀ step ∈ flow.steps, step.id = next →
      StepView.Called (StepView.all spec convention flow) (StepView.of spec convention flow step) := by
  obtain ⟨caller, inSteps, rfl, calls⟩ := leads
  rintro step member rfl
  refine .next (called caller inSteps rfl) (List.mem_map_of_mem member) ?_
  rw [StepView.nextHandlers_of (sound.nextSteps flow inFlows caller inSteps)]
  exact List.mem_map_of_mem calls

/-- What an entry leads to is called. Steps of the same id are entries together and are called together, so the
ids on the way are enough. -/
theorem called_of_reaches (sound : spec.IsSound) (inFlows : flow ∈ spec.flows) {entry : FlowStep}
    (isEntry : (StepView.of spec convention flow entry).isEntry = true) {id : String}
    (reaches : ReflTransGen flow.Leads entry.id id) :
    ∀ step ∈ flow.steps, step.id = id →
      StepView.Called (StepView.all spec convention flow) (StepView.of spec convention flow step) := by
  induction reaches with
  | refl =>
    intro step member same
    refine .entry (List.mem_map_of_mem member) ?_
    simpa only [StepView.of, same] using isEntry
  | tail _ leads ih => exact called_step sound inFlows leads ih

end Calls

/-- Every step of a flow is reached from an entry or from a cycle. Without cycles the calls that begin at the
entries come to all steps. -/
theorem Flow.steps_reached {spec : Specification} (valid : spec.structuralErrors = []) {flow : Flow}
    (inFlows : flow ∈ spec.flows) (language : Language) :
    let view := StepView.of spec (Convention.of language) flow
    (∀ step ∈ flow.steps,
      (∃ entry ∈ flow.steps, (view entry).isEntry = true ∧ ReflTransGen flow.Leads entry.id step.id) ∨
      ∃ id, TransGen flow.Leads id id ∧ ReflTransGen flow.Leads id step.id) ∧
    (flow.IsAcyclic → ∀ step ∈ flow.steps,
      StepView.Called (StepView.all spec (Convention.of language) flow) (view step)) := by
  refine ⟨fun step member => exists_entry_or_cycle member, fun acyclic step member => ?_⟩
  rcases @exists_entry_or_cycle spec (Convention.of language) flow step member with
    ⟨entry, _, isEntry, reaches⟩ | ⟨id, around, _⟩
  · exact called_of_reaches (Specification.isSound_of_structuralErrors valid) inFlows isEntry reaches step member rfl
  · exact absurd around (acyclic id)

/-- A flow with two steps of the same id and a step that is reached in two ways. -/
def branching : Flow where
  id := "order"
  name := "Order"
  steps := [
    { id := "start", name := "Start", type := .form, nextSteps := ["pay", "ship"] },
    { id := "pay", name := "Pay", type := .apiCall, nextSteps := ["ship"] },
    { id := "start", name := "Start again", type := .form, nextSteps := ["mail"] },
    { id := "ship", name := "Ship", type := .apiCall },
    { id := "mail", name := "Mail", type := .notice }]

/-- A flow that has no entry. -/
def circling : Flow where
  id := "retry"
  name := "Retry"
  steps := [
    { id := "ask", name := "Ask", type := .form, nextSteps := ["check"] },
    { id := "check", name := "Check", type := .validation, nextSteps := ["ask", "thank"] },
    { id := "thank", name := "Thank", type := .notice }]

def twoFlows : Specification where
  metadata := { name := "shop" }
  flows := [branching, circling]

theorem isAcyclic_branching : branching.IsAcyclic := by
  let rank (id : String) : Nat := ["start", "pay", "ship", "mail"].idxOf id
  have rises : ∀ step ∈ branching.steps, ∀ next ∈ step.nextSteps, rank step.id < rank next := by decide
  intro id around
  have higher : TransGen (· < ·) (rank id) (rank id) := around.lift rank fun source next leads => by
    obtain ⟨step, member, rfl, inside⟩ := leads
    exact rises step member next inside
  rw [transGen_eq_self] at higher
  exact lt_irrefl _ higher

theorem Flow.steps_reached_twoFlows :
    twoFlows.structuralErrors = [] ∧ branching ∈ twoFlows.flows ∧ circling ∈ twoFlows.flows ∧ branching.IsAcyclic ∧
      (∀ step ∈ branching.steps, StepView.Called (StepView.all twoFlows .python branching)
        (StepView.of twoFlows .python branching step)) ∧
      ∀ step ∈ circling.steps, ∃ id, TransGen circling.Leads id id ∧ ReflTransGen circling.Leads id step.id := by
  have valid : twoFlows.structuralErrors = [] := by decide
  have first : branching ∈ twoFlows.flows := List.mem_cons_self ..
  have second : circling ∈ twoFlows.flows := List.mem_cons_of_mem _ (List.mem_cons_self ..)
  refine ⟨valid, first, second, isAcyclic_branching, ?_, fun step member => ?_⟩
  · exact (steps_reached valid first .python).2 isAcyclic_branching
  · rcases (steps_reached valid second .python).1 step member with ⟨entry, inside, isEntry, _⟩ | around
    · exact absurd isEntry ((by decide : ∀ entry ∈ circling.steps,
        ¬ (StepView.of twoFlows .python circling entry).isEntry = true) entry inside)
    · exact around

end Prism
