import Prism.Proofs.Run.Quiet
import Prism.Run.Rehearsal

namespace Prism.Run

section Start

variable {α : Type} {value : Nat → α} {phase : Phase α} {size : Nat}

theorem isOpening_generationStart (targets : List Target) (clock : Number) (cancelled : Bool) :
    (generationStart targets clock cancelled).IsOpening where
  tasks task member := by
    obtain ⟨_, _, waiting⟩ := List.mem_map.mp member
    exact Or.inl waiting.symm
  watching := rfl
  unlooked := rfl
  uninterrupted := rfl
  settlements := rfl

theorem isOpening_validationStart {α : Type} (generation : Phase Slot) (slots : List Slot) :
    (validationStart generation slots : Phase α).IsOpening where
  tasks task member := by
    obtain ⟨slot, _, given⟩ := List.mem_map.mp member
    split at given
    · exact Or.inl given.symm
    · exact Or.inr given.symm
  watching := rfl
  unlooked := rfl
  uninterrupted := rfl
  settlements := rfl

theorem Phase.IsOpening.isQuiet (opening : phase.IsOpening) (notCancelled : phase.cancelled = false)
    (waiting : phase.tasks = List.replicate size .waiting) : phase.IsQuiet value fun index => index < size where
  toIsOrderly := opening.isOrderly
  toIsPossible := opening.isPossible
  notCancelled := notCancelled
  notHalted := opening.uninterrupted
  tasks index := by
    rw [waiting, List.getElem?_replicate]
    split <;> simp_all [Task.isThere]
  unexpired index := by simp [opening.settlements]

theorem isQuiet_generationStart (targets : List Target) (clock : Number) {value : Nat → Slot} :
    (generationStart targets clock false).IsQuiet value fun index => index < targets.length :=
  (isOpening_generationStart targets clock false).isQuiet rfl (List.map_const' ..)

theorem isQuiet_validationStart {generation : Phase Slot} (notCancelled : generation.cancelled = false)
    {slots : List Slot} (filled : ∀ slot ∈ slots, slot.isSome = true) :
    (validationStart generation slots : Phase α).IsQuiet value fun index => index < slots.length := by
  refine (isOpening_validationStart generation slots).isQuiet notCancelled ?_
  rw [validationStart, ← List.map_const']
  exact List.map_congr_left fun slot member => if_pos (filled slot member)

end Start

section Slots

variable {targets : List Target}

/-- Generation fills each slot with what its task gave. -/
theorem generatedSlots_of_isQuiet (spec : Specification) (settings : CompilerSettings)
    {result : Target → GenerationResult} {phase : Phase Slot}
    (quiet : phase.IsQuiet (fun index => targets[index]?.map result) fun index => index < targets.length)
    (ended : phase.mode = .ended) :
    generatedSlots spec settings targets phase.settlements = targets.map fun target => some (result target) := by
  have each : ∀ place ∈ targets.zipIdx, generatedSlot spec (budget settings) place.1
      (phase.settlements.lookup place.2) = some (result place.1) := by
    rintro ⟨target, index⟩ member
    have found := List.mem_zipIdx_iff_getElem?.mp member
    have bound := (List.getElem?_eq_some_iff.mp found).1
    simp only [quiet.lookup_settlements ended, bound, decide_true, if_true, found]
    rfl
  rw [generatedSlots, List.map_congr_left each]
  conv_rhs => rw [← List.zipIdx_map_fst 0 targets, List.map_map]
  rfl

/-- Validation adds its outcome to each result. -/
theorem validatedSlots_of_lookup (settings : CompilerSettings) (result : Target → GenerationResult)
    {outcome : Target → ValidationOutcome} {settlements : List (Nat × Settlement ValidationOutcome)}
    (settled : ∀ index target, targets[index]? = some target →
      settlements.lookup index = some (.collected (outcome target))) :
    validatedSlots settings targets (targets.map fun target => some (result target)) settlements =
      targets.map fun target => some { result target with validation := some (outcome target) } := by
  have each : ∀ place ∈ (targets.map fun target => (target, some (result target))).zipIdx,
      validatedSlot (budget settings) place.1.1 place.1.2 (settlements.lookup place.2) =
        some { result place.1.1 with validation := some (outcome place.1.1) } := by
    rintro ⟨pair, index⟩ member
    have found := List.mem_zipIdx_iff_getElem?.mp member
    rw [List.getElem?_map, Option.map_eq_some_iff] at found
    obtain ⟨target, here, rfl⟩ := found
    rw [settled index target here]
    rfl
  rw [validatedSlots, ← List.map_prod_left_eq_zip, List.map_congr_left each]
  conv_rhs => rw [← List.zipIdx_map_fst 0 targets, List.map_map]
  rw [List.zipIdx_map, List.map_map]
  rfl

end Slots

section Stages

variable {α : Type} (setting : Setting α) (stage : Stage α)

@[simp] theorem Stage.phase_tell (records : List LogRecord) : (stage.tell records).phase = stage.phase := rfl

@[simp] theorem Stage.phase_step (event : Event α) :
    (stage.step setting event).phase = stage.phase.step setting.rules event := rfl

@[simp] theorem Stage.phase_replay (events : List (Event α)) :
    (stage.replay setting events).phase = stage.phase.replay setting.rules events := by
  induction events generalizing stage with
  | nil => rfl
  | cons event events ih => exact ih (stage.step setting event)

end Stages

end Prism.Run

namespace Prism

open Run

namespace Compiler

variable {ε : Type} {compiler : Compiler} {spec : Specification} {targets : List Target}
  {result : Target → GenerationResult}

theorem isPlace_of_getElem? {index : Nat} {target : Target} (place : targets[index]? = some target) :
    decide (index < targets.length) = true :=
  decide_eq_true (List.getElem?_eq_some_iff.mp place).1

/-- The outcome of the validation of the target at a position. -/
def outcomeAt (outcome : Target → ValidationOutcome) (targets : List Target) (index : Nat) : ValidationOutcome :=
  (targets[index]?.map outcome).getD default

theorem outcomeAt_of_getElem? (outcome : Target → ValidationOutcome) {index : Nat} {target : Target}
    (place : targets[index]? = some target) : outcomeAt outcome targets index = outcome target := by
  rw [outcomeAt, place]
  rfl

section Validation

variable (compiler spec result) in
/-- The validation of the result of a target. -/
def validated (target : Target) : ValidationOutcome :=
  compiler.validator.validate spec target (result target)

end Validation

/-- Built-in targets and templates, and no limit on time. -/
structure IsPlain (compiler : Compiler) : Prop where
  registry : compiler.registry.orBuiltin = .builtin
  source : compiler.source = .builtin
  targetTimeout : limit? compiler.settings.targetTimeout = none
  runTimeout : limit? compiler.settings.runTimeout = none

theorem IsPlain.isFree_generationRules (plain : compiler.IsPlain) (clock : Number) :
    (generationRules compiler.settings clock).IsFree where
  deadline := by rw [generationRules, plain.runTimeout]; rfl
  budget := plain.targetTimeout

theorem IsPlain.isFree_validationRules {α : Type} (plain : compiler.IsPlain) {generation : Phase Slot}
    (notHalted : generation.halt = none) :
    (validationRules compiler.settings (generationRules compiler.settings 0).deadline generation : Rules α).IsFree where
  deadline := by
    simp only [validationRules, notHalted]
    exact (plain.isFree_generationRules 0).deadline
  budget := plain.targetTimeout

variable (compiler spec targets result) in
/-- The slots after a run that nothing disturbed. -/
def finalSlots : List Slot :=
  targets.map fun target => some { result target with validation := some (compiler.validated spec result target) }

section Histories

variable (compiler spec targets)

/-- Generation after a history of events. -/
def generationAfter (events : List (Event Slot)) : Phase Slot :=
  (generationStart targets 0 false).replay (generationRules compiler.settings 0) events

def slotsAfter (generation : Phase Slot) : List Slot :=
  generatedSlots spec compiler.settings targets generation.settlements

/-- Validation of what generation left, after a history of events. -/
def validationAfter (generation : Phase Slot) (events : List (Event ValidationOutcome)) :
    Phase ValidationOutcome :=
  (validationStart generation (compiler.slotsAfter spec targets generation)).replay
    (validationRules compiler.settings (generationRules compiler.settings 0).deadline generation) events

/-- What a run comes to after both phases. -/
def outcomeAfter (generation : Phase Slot) (validation : Phase ValidationOutcome) :
    Except OptimizationFault RunOutcome :=
  conclude compiler.registry spec targets
    (validatedSlots compiler.settings targets (compiler.slotsAfter spec targets generation) validation.settlements)
    (generation.halt <|> validation.halt)

end Histories

/-- Whatever the order of events, a run that nothing disturbs comes to the same. -/
theorem outcomeAfter_of_isQuiet (plain : compiler.IsPlain) {first : List (Event Slot)}
    (calm : ∀ event ∈ first, event.IsQuiet fun index => targets[index]?.map result)
    (ended : (compiler.generationAfter targets first).mode = .ended)
    {second : List (Event ValidationOutcome)}
    (calmToo : ∀ event ∈ second, event.IsQuiet (outcomeAt (compiler.validated spec result) targets))
    (endedToo : (compiler.validationAfter spec targets (compiler.generationAfter targets first) second).mode =
      .ended) :
    compiler.outcomeAfter spec targets (compiler.generationAfter targets first)
        (compiler.validationAfter spec targets (compiler.generationAfter targets first) second) =
      conclude compiler.registry spec targets (compiler.finalSlots spec targets result) none := by
  have quiet : (compiler.generationAfter targets first).IsQuiet (fun index => targets[index]?.map result)
      fun index => index < targets.length :=
    (isQuiet_generationStart targets 0).replay (plain.isFree_generationRules 0) calm
  have slots : compiler.slotsAfter spec targets (compiler.generationAfter targets first) =
      targets.map fun target => some (result target) :=
    generatedSlots_of_isQuiet spec compiler.settings quiet ended
  have quietToo : (compiler.validationAfter spec targets (compiler.generationAfter targets first) second).IsQuiet
      (outcomeAt (compiler.validated spec result) targets) fun index => index < targets.length := by
    rw [validationAfter, slots]
    refine Phase.IsQuiet.replay (plain.isFree_validationRules quiet.notHalted) calmToo ?_
    rw [← List.length_map fun target => some (result target)]
    exact isQuiet_validationStart quiet.notCancelled (by simp)
  have collected : ∀ index target, targets[index]? = some target →
      (compiler.validationAfter spec targets (compiler.generationAfter targets first) second).settlements.lookup index =
        some (.collected (compiler.validated spec result target)) := by
    intro index target place
    have there := isPlace_of_getElem? place
    rw [quietToo.lookup_settlements endedToo, if_pos there, outcomeAt_of_getElem? _ place]
  rw [outcomeAfter, slots, validatedSlots_of_lookup compiler.settings result collected, quiet.notHalted,
    quietToo.notHalted]
  rfl

end Compiler

end Prism
