import Prism.Command.Answer
import Prism.Proofs.Analysis
import Prism.Proofs.Document.Refusal
import Prism.Proofs.Json.Limits
import Prism.Proofs.Run.History

namespace Prism

open Run

/-- The status of a document: two when it is refused, one when it has structural errors, zero when all is
well. -/
def Specification.verdict : Except DocumentFault Specification → Nat
  | .error _ => 2
  | .ok spec => if spec.structuralErrors = [] then 0 else 1

theorem Command.exists_checked {surroundings : Surroundings} {path place : Location} {text : String} {json : Json}
    (led : path.expand surroundings.homes = .ok place)
    (stored : (surroundings.disk.find place).text place.text = .ok text) (name : isYamlName place.name = false)
    (read : Json.read surroundings.room text = .ok json)
    (goes : ∀ obstacle, Specification.ofDoc surroundings.room (Doc.ofJson json) ≠ .error (.stopped obstacle)) :
    ∃ answer, Command.checked surroundings path = .ok answer ∧
      answer.status = Specification.verdict (Specification.ofDoc surroundings.room (Doc.ofJson json)) := by
  have file : Specification.ofFile surroundings.room surroundings.homes surroundings.disk.find path =
      (Specification.ofDoc surroundings.room (Doc.ofJson json)).mapError .document := by
    simp only [Specification.ofFile, led, stored, documentOf, name, read, Except.mapError, bind, Except.bind,
      Bool.false_eq_true, if_false]
  simp only [Command.checked, file]
  cases given : Specification.ofDoc surroundings.room (Doc.ofJson json) with
  | error fault =>
    have refusal : (SpecFileFault.document fault).isRefusal = true := by
      cases fault with
      | stopped obstacle => exact absurd given (goes obstacle)
      | rootNotMapping | unsupportedVersion | malformed => rfl
    simp only [Except.mapError, refusal, if_true]
    exact ⟨_, rfl, rfl⟩
  | ok spec =>
    by_cases valid : spec.structuralErrors = []
    · simp only [Except.mapError, valid, List.map_nil, List.isEmpty_nil, if_true]
      exact ⟨_, rfl, by simp [Specification.verdict, valid]⟩
    · have some : (spec.structuralErrors.map (·.message)).isEmpty = false := by simpa using valid
      simp only [Except.mapError, some, Bool.false_eq_true, if_false]
      exact ⟨_, rfl, by simp [Specification.verdict, valid]⟩

namespace Json

/-- The unit that an escape at the start of a text stands for. -/
def escapedUnit? (input : List Char) : Option ℕ :=
  if input.take 2 = ['\\', 'u'] then
    (((input.drop 2).take 4).mapM hexValue?).bind fun digits =>
      if digits.length = 4 then some (digits.foldl (fun value digit => 16 * value + digit) 0) else none
  else none

/-- Whether half of a pair of units stands alone among the escapes after so many characters. -/
def hasHalfAfter : ℕ → List Char → Bool
  | _, [] => false
  | skipped + 1, _ :: rest => hasHalfAfter skipped rest
  | 0, c :: rest =>
    if c = '\\' then
      let unit := (escapedUnit? (c :: rest)).getD 0
      let next := (escapedUnit? (rest.drop 5)).getD 0
      if unit < 0xd800 || 0xe000 ≤ unit then hasHalfAfter 1 rest
      else if 0xdc00 ≤ unit || next < 0xdc00 || 0xe000 ≤ next then true
      else hasHalfAfter 11 rest
    else hasHalfAfter 0 rest

/-- A text of a document. A document has characters only, so no half of a pair stands alone in the text. -/
def IsTextOf (room : Room) (text : String) (document : Json) : Prop :=
  read room text = .ok document ∧ hasHalfAfter 0 text.toList = false

/-- A document that a run can take up: reading it is not stopped, and neither is taking the fingerprint of its
specification. -/
structure IsCompilable (room : Room) (document : Json) : Prop where
  goes : ∀ obstacle, Specification.ofDoc room (Doc.ofJson document) ≠ .error (.stopped obstacle)
  copied : ∀ spec, Specification.ofDoc room (Doc.ofJson document) = .ok spec → spec.fingerprintLimit? room = none

/-- A document that keeps the limits. For a level of it freezing takes two calls and copying four, and both take a
few more in the rules of a field. -/
def IsShallow (room : Room) (document : Json) : Prop :=
  ∃ depth, document.fits room depth = true ∧ 2 * depth + 2 ≤ room.freezing ∧ depth < room.showing ∧
    4 * depth + 6 ≤ room.copying

theorem IsShallow.fingerprintLimit? {room : Room} {document : Json} (shallow : document.IsShallow room)
    {spec : Specification} (stands : spec.IsFrom document) : spec.fingerprintLimit? room = none := by
  obtain ⟨depth, fits, _, _, copying⟩ := shallow
  have each : ∀ field ∈ spec.entities.flatMap (·.fields),
      field.isCopied room = true ∧ field.isWritten room = true := by
    intro field member
    obtain ⟨entity, among, inside⟩ := List.mem_flatMap.mp member
    obtain ⟨⟨json, place, same⟩, rules⟩ := stands.isFrom_frozen entity among field inside
    rw [Field.isCopied, Field.isWritten, same, Frozen.isCopied_ofJson (place.fits fits) (by omega),
      Frozen.isWritten_ofJson (place.fits fits), Bool.true_and, Bool.true_and, List.all_eq_true, List.all_eq_true]
    refine ⟨fun rule ruled => ?_, fun rule ruled => ?_⟩
    all_goals
      obtain ⟨value, place, same⟩ := rules rule ruled
      rw [same]
    · exact Frozen.isCopied_ofJson (place.fits fits) (by omega)
    · exact Frozen.isWritten_ofJson (place.fits fits)
  have copied := List.all_eq_true.mpr fun field member => (each field member).1
  have written := List.all_eq_true.mpr fun field member => (each field member).2
  simp only [Specification.fingerprintLimit?, copied, written, Bool.not_true, Bool.false_eq_true, if_false]

theorem IsShallow.isCompilable {room : Room} {document : Json} (shallow : document.IsShallow room)
    (proper : document.IsProper) : document.IsCompilable room where
  goes := by
    obtain ⟨depth, fits, freezing, showing, _⟩ := shallow
    exact Specification.ofDoc_ne_stopped proper ⟨depth, fits, freezing, showing⟩
  copied spec read := shallow.fingerprintLimit? (Specification.isGrammatical_of_ofDoc proper read).2

end Json

/-- The targets with these ids in their order, each once, or all of them. -/
def Registry.selectedIds (ids : List String) : List String :=
  if ids.isEmpty then Catalog.targets.map (·.id) else ids.eraseDups

theorem Registry.selectedIds_ne_nil (ids : List String) : selectedIds ids ≠ [] := by
  rw [selectedIds]
  split
  · decide
  · next some =>
    cases ids with
    | nil => exact absurd rfl some
    | cons id ids => simp [List.eraseDups_cons]

theorem Registry.ids_foldl (chosen : List Target) :
    (chosen.foldl (fun before target =>
      if before.any (·.id = target.id) then before else before ++ [target]) []).map (·.id) =
        (chosen.map (·.id)).eraseDups := by
  induction chosen using List.reverseRecOn with
  | nil => rfl
  | append_singleton chosen target ih =>
    rw [List.foldl_append, List.foldl_cons, List.foldl_nil, List.map_append, List.eraseDups_append, ← ih]
    generalize found : chosen.foldl _ [] = before at ih ⊢
    have seen : before.any (·.id = target.id) = true ↔ target.id ∈ chosen.map (·.id) := by
      rw [← List.mem_eraseDups, ← ih, List.mem_map, List.any_eq_true]
      simp only [decide_eq_true_eq]
    generalize chosen.map (·.id) = earlier at ih seen
    by_cases member : target.id ∈ earlier
    · rw [if_pos (seen.mpr member)]
      simp [List.removeAll, member]
    · rw [if_neg fun any => member (seen.mp any), List.map_append]
      simp [List.removeAll, member, List.eraseDups_cons]

theorem Registry.mem_of_mem_foldl {chosen : List Target} {target : Target}
    (member : target ∈ chosen.foldl (fun before target =>
      if before.any (·.id = target.id) then before else before ++ [target]) []) : target ∈ chosen := by
  induction chosen using List.reverseRecOn with
  | nil => exact member
  | append_singleton chosen last ih =>
    rw [List.foldl_append, List.foldl_cons, List.foldl_nil] at member
    split at member
    · exact List.mem_append_left _ (ih member)
    · exact List.mem_append.mpr ((List.mem_append.mp member).imp ih id)

/-- Known targets can be selected. -/
theorem Registry.exists_select {ids : List String} (known : ∀ id ∈ ids, id ∈ Catalog.targets.map (·.id)) :
    ∃ targets, Registry.builtin.select ids = .ok targets ∧ targets.map (·.id) = selectedIds ids ∧
      ∀ target ∈ targets, target ∈ Catalog.targets := by
  by_cases none : ids.isEmpty = true
  · exact ⟨Catalog.targets, by rw [select, if_pos none]; rfl, by rw [selectedIds, if_pos none], fun _ => id⟩
  · obtain ⟨chosen, found, same, listed⟩ : ∃ chosen, ids.mapM Registry.builtin.get = .ok chosen ∧
        chosen.map (·.id) = ids ∧ ∀ target ∈ chosen, target ∈ Catalog.targets := by
      clear none
      induction ids with
      | nil => exact ⟨[], rfl, rfl, by simp⟩
      | cons id ids ih =>
        obtain ⟨target, here, found, named⟩ := get_builtin (List.mem_map.mp (known id (List.mem_cons_self ..)))
        obtain ⟨others, more, same, listed⟩ := ih fun other member => known other (List.mem_cons_of_mem _ member)
        refine ⟨target :: others, by rw [List.mapM_cons, found, more]; rfl, by rw [List.map_cons, named, same], ?_⟩
        exact List.forall_mem_cons.mpr ⟨here, listed⟩
    refine ⟨_, by simp only [select, none, found, bind, Except.bind]; rfl, ?_, ?_⟩
    · rw [ids_foldl, same, selectedIds, if_neg none]
    · exact fun target member => listed target (mem_of_mem_foldl member)

/-- What the result of a target says about the specification alone. -/
def GenerationResult.IsJudged (spec : Specification) (result : GenerationResult) : Prop :=
  if spec.structuralErrors = [] then result.success = true
  else result.success = false ∧ result.output = {} ∧
    ∃ error, result.error = some error ∧ error.problems = spec.structuralErrors.map (·.message)

/-- A call that gives a result is the only one. -/
theorem Trial.run_of_produced (spec : Specification) (target : Target) (backoff : Number)
    (call : Nat → Attempt) (halted : Nat → Bool) (left : Nat) {result : GenerationResult}
    (first : result.attempts = 1) (produced : call 1 = .produced result) :
    ∃ notes, Trial.run spec target backoff call halted left 1 = .ok { pauses := [], notes, result } := by
  have same : { result with attempts := 1 } = result := by
    cases result
    simp_all
  rw [Trial.run.eq_def]
  simp only [produced, same]
  exact ⟨_, rfl⟩

namespace Compiler

section OneWorker

variable {ε : Type} {compiler : Compiler} {spec : Specification} {targets : List Target}
  {result : Target → GenerationResult}

/-- Targets that have a result at the first attempt leave nothing that could fail. -/
theorem exists_generateAll (works : ∀ target ∈ targets,
      Generator.generate compiler.source spec target = .ok (result target) ∧ (result target).attempts = 1) :
    ∃ generation, compiler.generateAll spec targets ({} : Script ε) = .ok generation := by
  let setting : Setting Slot :=
    { rules := generationRules compiler.settings 0, targets, expiry := "Timed out after " }
  let start : Stage Slot := { phase := generationStart targets 0 false }
  have each (before : Generation) (place : Target × Nat) (inside : place ∈ targets.zipIdx) :
      ∃ after, compiler.generateNext spec setting ({} : Script ε) before place = .ok after := by
    obtain ⟨target, index⟩ := place
    have work := works target (List.mem_of_getElem? (List.mem_zipIdx_iff_getElem?.mp inside))
    rw [generateNext]
    split
    · obtain ⟨notes, run⟩ := Trial.run_of_produced spec target compiler.settings.retryBackoff
        (fun number => (([] : List (Disturbance Attempt))[number - 1]?.bind (·.failure)).getD
          (Attempt.ofGeneration (Generator.generate compiler.source spec target)))
        (fun number => ((before.stage.step setting (.start index)).disturbed setting index
          ([] : List (Disturbance Attempt)) number).phase.isStopping)
        compiler.settings.maxRetries.toNat work.2 (by simp [work.1, Attempt.ofGeneration])
      simp only [attempt, run, bind, Except.bind]
      exact ⟨_, rfl⟩
    · exact ⟨_, rfl⟩
    · exact ⟨_, rfl⟩
  obtain ⟨final, folded⟩ := exists_foldlM_ok { stage := start.replay setting [.check] } each
  refine ⟨{ final with stage := final.stage.replay setting [.release] }, ?_⟩
  simp only [generateAll, setting, start] at folded ⊢
  rw [folded]
  rfl

theorem isQuiet_generateAll (free : (generationRules compiler.settings 0).IsFree) (works : ∀ target ∈ targets,
      Generator.generate compiler.source spec target = .ok (result target) ∧ (result target).attempts = 1)
    {generation : Generation} (generated : compiler.generateAll spec targets ({} : Script ε) = .ok generation) :
    generation.stage.phase.mode = .ended ∧ generation.stage.phase.IsQuiet (fun index => targets[index]?.map result)
      fun index => index < targets.length := by
  have generates : Generates (fun target attempt => target ∈ targets ∧ attempt = .produced (result target)) compiler
      spec targets ({} : Script ε) (Event.IsQuiet fun index => targets[index]?.map result) := by
    refine ⟨⟨fun target inside => ⟨inside, by rw [(works target inside).1]; rfl⟩, by simp⟩,
      ⟨fun _ => trivial, trivial, trivial, trivial⟩, by simp, fun index target slot place tries => ?_⟩
    obtain ⟨call, halted, trial, good, run, rfl⟩ := tries
    obtain ⟨inside, produced⟩ := good 1
    obtain ⟨notes, same⟩ := Trial.run_of_produced spec target compiler.settings.retryBackoff call halted
      compiler.settings.maxRetries.toNat (works target inside).2 produced
    obtain rfl := Except.ok.inj (run.symm.trans same)
    simp [Event.IsQuiet, place]
  obtain ⟨events, calm, same, ended, _⟩ := exists_generating generates generated
  exact ⟨ended, same ▸ (isQuiet_generationStart targets 0).replay free calm⟩

/-- Validation of all targets that have a result. -/
theorem isQuiet_validateAll (spec : Specification) (targets : List Target) (result : Target → GenerationResult)
    {generation : Phase Slot} (notCancelled : generation.cancelled = false)
    (free : (validationRules compiler.settings (generationRules compiler.settings 0).deadline generation :
      Rules (Except ε ValidationOutcome)).IsFree) :
    (compiler.validateAll spec targets ({} : Script ε) generation
        (targets.map fun target => some (result target))).phase.mode = .ended ∧
      (compiler.validateAll spec targets ({} : Script ε) generation
        (targets.map fun target => some (result target))).phase.IsQuiet
          (fun index => .ok (outcomeAt (compiler.validated spec result) targets index))
          fun index => index < targets.length := by
  have validates : Validates compiler spec targets (targets.map fun target => some (result target)) ({} : Script ε)
      (Event.IsQuiet fun index => .ok (outcomeAt (compiler.validated spec result) targets index)) := by
    refine ⟨⟨fun _ => trivial, trivial, trivial, trivial⟩, by simp, by simp, fun index target given place filled => ?_⟩
    rw [List.getElem?_map, place] at filled
    obtain rfl := Option.some.inj (Option.some.inj filled)
    rw [Event.IsQuiet, outcomeAt_of_getElem? _ place, validated]
  obtain ⟨events, calm, same, ended⟩ := exists_validating generation (by simp) validates
  refine ⟨ended, same ▸ Phase.IsQuiet.replay free calm ?_⟩
  rw [← List.length_map fun target => some (result target)]
  exact isQuiet_validationStart notCancelled (by simp)

/-- The settlements of a validation in which nothing failed. -/
theorem settled_of_ok {outcome : Nat → ValidationOutcome}
    {settlements : List (Nat × Settlement (Except ε ValidationOutcome))}
    (all : ∀ index settlement, (index, settlement) ∈ settlements → settlement = .collected (.ok (outcome index))) :
    settled settlements = .ok (settlements.map fun pair => (pair.1, .collected (outcome pair.1))) := by
  induction settlements with
  | nil => rfl
  | cons pair settlements ih =>
    obtain ⟨index, settlement⟩ := pair
    obtain rfl := all index settlement (List.mem_cons_self ..)
    rw [settled, ih fun other settlement member => all other settlement (List.mem_cons_of_mem _ member)]
    rfl

theorem lookup_map_fst {β γ : Type} (f : Nat → γ) (pairs : List (Nat × β)) (index : Nat) :
    (pairs.map fun pair => (pair.1, f pair.1)).lookup index = (pairs.lookup index).map fun _ => f index := by
  induction pairs with
  | nil => rfl
  | cons pair pairs ih =>
    obtain ⟨key, value⟩ := pair
    by_cases same : index = key
    · simp [same]
    · have other : (index == key) = false := beq_eq_false_iff_ne.mpr same
      simp only [List.map_cons, List.lookup_cons, other, ih]

theorem expiryTold_of_isQuiet {α : Type} {value : Nat → α} {there : Nat → Bool} {phase : Phase α}
    (quiet : phase.IsQuiet value there) (settings : CompilerSettings) :
    expiryTold settings phase.settlements = .ok () := by
  refine if_neg fun expired => ?_
  obtain ⟨⟨index, settlement⟩, member, given⟩ := List.any_eq_true.mp expired
  rw [quiet.eq_of_mem member] at given
  exact absurd given Bool.false_ne_true

/-- On one worker the run has the outcome that these slots come to. -/
theorem exists_rehearse (plain : compiler.IsPlain)
    (works : ∀ target ∈ targets, Generator.generate compiler.source spec target = .ok (result target) ∧
      (result target).attempts = 1)
    {outcome : RunOutcome}
    (concluded : conclude compiler.registry spec targets (compiler.finalSlots spec targets result) none =
      .ok outcome) :
    ∃ record, compiler.rehearse spec targets ({} : Script ε) = .ok record ∧ record.outcome = outcome := by
  obtain ⟨generation, generated⟩ := exists_generateAll (ε := ε) works
  obtain ⟨ended, quiet⟩ := isQuiet_generateAll (plain.isFree_generationRules 0) works generated
  have slots := generatedSlots_of_isQuiet spec compiler.settings quiet ended
  have validating := isQuiet_validateAll (ε := ε) spec targets result quiet.notCancelled
    (plain.isFree_validationRules quiet.notHalted)
  generalize played : compiler.validateAll spec targets ({} : Script ε) generation.stage.phase
    (targets.map fun target => some (result target)) = validation at validating
  obtain ⟨endedToo, quietToo⟩ := validating
  have settlements := settled_of_ok fun index settlement member => quietToo.eq_of_mem member
  have collected : ∀ index target, targets[index]? = some target →
      (validation.phase.settlements.map fun pair => (pair.1,
        Settlement.collected (outcomeAt (compiler.validated spec result) targets pair.1))).lookup index =
        some (.collected (compiler.validated spec result target)) := by
    intro index target place
    have there := isPlace_of_getElem? place
    rw [lookup_map_fst fun index => Settlement.collected (outcomeAt (compiler.validated spec result) targets index),
      quietToo.lookup_settlements endedToo, if_pos there, Option.map_some, outcomeAt_of_getElem? _ place]
  have final := validatedSlots_of_lookup compiler.settings result collected
  have unhalted : (generation.stage.phase.halt <|> validation.phase.halt) = none := by
    rw [quiet.notHalted, quietToo.notHalted]
    rfl
  rw [finalSlots] at concluded
  simp only [rehearse, generated, Except.mapError, bind, Except.bind, expiryTold_of_isQuiet quiet, slots, played,
    expiryTold_of_isQuiet quietToo, settlements, final, unhalted, concluded]
  exact ⟨_, rfl, rfl⟩

end OneWorker

/-- The ids that are asked for, or else those of the settings. -/
def wanted (compiler : Compiler) (ids : List String) : List String :=
  if ids.isEmpty then compiler.settings.targets else ids

/-- The result of a target. -/
def resultOf (compiler : Compiler) (spec : Specification) (target : Target) : GenerationResult :=
  (Generator.generate compiler.source spec target).toOption.getD default

/-- Every built-in target has a result at the first attempt, and it is as the specification deserves. -/
theorem IsPlain.generate_eq {compiler : Compiler} (plain : compiler.IsPlain) (spec : Specification)
    {target : Target} (member : target ∈ Catalog.targets) :
    Generator.generate compiler.source spec target = .ok (compiler.resultOf spec target) ∧
      (compiler.resultOf spec target).attempts = 1 ∧ (compiler.resultOf spec target).targetId = target.id ∧
      (compiler.resultOf spec target).IsAnalysable ∧ (compiler.resultOf spec target).IsJudged spec := by
  by_cases valid : spec.structuralErrors = []
  · obtain ⟨result, made, generated⟩ := Generator.exists_generate valid (Catalog.isMeasured member)
    have same : compiler.resultOf spec target = result := by rw [resultOf, plain.source, made]; rfl
    rw [same, plain.source]
    refine ⟨made, generated.attempts, generated.targetId, generated.isAnalysable member, ?_⟩
    rw [GenerationResult.IsJudged, if_pos valid]
    exact generated.success
  · have made := @Generator.generate_of_structuralErrors compiler.source spec target valid
    have same : compiler.resultOf spec target = GenerationResult.failed spec target
        (Generator.structuralFailure spec.structuralErrors) spec.fingerprint 1 := by rw [resultOf, made]; rfl
    rw [same]
    refine ⟨made, rfl, rfl, GenerationResult.isAnalysable_failed spec _ _ _ member, ?_⟩
    rw [GenerationResult.IsJudged, if_neg valid]
    exact ⟨rfl, rfl, _, rfl, rfl⟩

/-- The results of a run that nothing disturbed. -/
def finalResults (compiler : Compiler) (spec : Specification) (targets : List Target) : List GenerationResult :=
  targets.map fun target => { compiler.resultOf spec target with
    validation := some (compiler.validated spec (compiler.resultOf spec) target) }

theorem results_finalSlots (compiler : Compiler) (spec : Specification) (targets : List Target) :
    results (compiler.finalSlots spec targets (compiler.resultOf spec)) = compiler.finalResults spec targets := by
  simp [results, finalSlots, finalResults, List.filterMap_map]

theorem missing_finalSlots (compiler : Compiler) (spec : Specification) (targets : List Target) :
    missing targets (compiler.finalSlots spec targets (compiler.resultOf spec)) = [] := by
  rw [missing, finalSlots, ← List.map_prod_left_eq_zip, List.map_eq_nil_iff, List.filter_eq_nil_iff]
  intro pair member
  obtain ⟨target, _, rfl⟩ := List.mem_map.mp member
  simp

theorem IsPlain.isJudged_of_mem {compiler : Compiler} (plain : compiler.IsPlain) {spec : Specification}
    {targets : List Target} (listed : ∀ target ∈ targets, target ∈ Catalog.targets) {result : GenerationResult}
    (member : result ∈ compiler.finalResults spec targets) : result.IsJudged spec := by
  obtain ⟨target, inside, rfl⟩ := List.mem_map.mp member
  obtain ⟨_, _, _, _, judged⟩ := plain.generate_eq spec (listed target inside)
  exact judged

/-- The outcome of a run that nothing disturbed, whatever the validator. -/
theorem IsPlain.exists_conclude {compiler : Compiler} (plain : compiler.IsPlain) (spec : Specification)
    {targets : List Target} (listed : ∀ target ∈ targets, target ∈ Catalog.targets) (some : targets ≠ []) :
    ∃ outcome, conclude compiler.registry spec targets
        (compiler.finalSlots spec targets (compiler.resultOf spec)) none = .ok outcome ∧
      outcome.results = compiler.finalResults spec targets ∧
      outcome.exitCode = if spec.structuralErrors = [] then 0 else 1 := by
  have sound : ∀ result ∈ results (compiler.finalSlots spec targets (compiler.resultOf spec)), result.IsAnalysable := by
    intro result member
    rw [results_finalSlots] at member
    obtain ⟨target, inside, rfl⟩ := List.mem_map.mp member
    obtain ⟨_, _, _, analysable, _⟩ := plain.generate_eq spec (listed target inside)
    exact { analysable with }
  obtain ⟨outcome, concluded, done, all, _, _, report, reported, complete⟩ :=
    Run.exists_conclude plain.registry spec targets sound none
  rw [results_finalSlots] at all
  rw [missing_finalSlots, List.isEmpty_nil] at complete
  refine ⟨outcome, concluded, all, ?_⟩
  have judged : outcome.results.all (·.success) = true ↔ spec.structuralErrors = [] := by
    rw [all, List.all_eq_true]
    constructor
    · intro successes
      by_contra broken
      obtain ⟨result, member⟩ := List.exists_mem_of_ne_nil (compiler.finalResults spec targets)
        (by simpa [finalResults] using some)
      have judged := plain.isJudged_of_mem listed member
      rw [GenerationResult.IsJudged, if_neg broken, successes _ member] at judged
      exact absurd judged.1 (by decide)
    · intro valid result member
      have judged := plain.isJudged_of_mem listed member
      rwa [GenerationResult.IsJudged, if_pos valid] at judged
  simp [RunOutcome.exitCode, RunOutcome.complete, done, reported, complete, judged]

/-- Histories of a run that nothing disturbs: the tasks give the results and validations of their
targets, and both phases come to their end. -/
structure IsUndisturbed (compiler : Compiler) (spec : Specification) (targets : List Target)
    (first : List (Event Slot)) (second : List (Event ValidationOutcome)) : Prop where
  generating : ∀ event ∈ first, event.IsQuiet fun index => targets[index]?.map (compiler.resultOf spec)
  generated : (compiler.generationAfter targets first).mode = .ended
  validating : ∀ event ∈ second,
    event.IsQuiet (outcomeAt (compiler.validated spec (compiler.resultOf spec)) targets)
  validated : (compiler.validationAfter spec targets (compiler.generationAfter targets first) second).mode = .ended

/-- What a run over built-in targets comes to. The document alone decides: it is refused, or has structural errors
that fail all targets, or succeeds for all targets. Histories on any number of workers come to the same outcome, and
the check of a file that holds the document has the same status. -/
structure IsVerdict (compiler : Compiler) (json : Json) (ids : List String) (outcome : RunOutcome) : Prop where
  exitCode : outcome.exitCode = Specification.verdict (Specification.ofDoc compiler.room (Doc.ofJson json))
  targets : ∀ spec, Specification.ofDoc compiler.room (Doc.ofJson json) = .ok spec →
    outcome.results.map (·.targetId) = Registry.selectedIds (compiler.wanted ids)
  results : ∀ spec, Specification.ofDoc compiler.room (Doc.ofJson json) = .ok spec →
    ∀ result ∈ outcome.results, result.IsJudged spec
  histories : ∀ spec, Specification.ofDoc compiler.room (Doc.ofJson json) = .ok spec →
    ∀ targets first second, Registry.builtin.select (compiler.wanted ids) = .ok targets →
      compiler.IsUndisturbed spec targets first second →
      compiler.outcomeAfter spec targets (compiler.generationAfter targets first)
        (compiler.validationAfter spec targets (compiler.generationAfter targets first) second) = .ok outcome
  check : ∀ (surroundings : Surroundings) (path place : Location) (text : String),
    surroundings.room = compiler.room → path.expand surroundings.homes = .ok place →
    (surroundings.disk.find place).text place.text = .ok text → isYamlName place.name = false →
    json.IsTextOf compiler.room text →
    ∃ answer, Command.checked surroundings path = .ok answer ∧ answer.status = outcome.exitCode

theorem check_of_goes {compiler : Compiler} {json : Json}
    (goes : ∀ obstacle, Specification.ofDoc compiler.room (Doc.ofJson json) ≠ .error (.stopped obstacle))
    {surroundings : Surroundings} {path place : Location} {text : String} (room : surroundings.room = compiler.room)
    (led : path.expand surroundings.homes = .ok place)
    (stored : (surroundings.disk.find place).text place.text = .ok text) (name : isYamlName place.name = false)
    (written : json.IsTextOf compiler.room text) :
    ∃ answer, Command.checked surroundings path = .ok answer ∧
      answer.status = Specification.verdict (Specification.ofDoc compiler.room (Doc.ofJson json)) := by
  rw [← room] at goes written ⊢
  exact Command.exists_checked led stored name written.1 goes

/-- A specification that has a fingerprint is compiled. -/
theorem IsPlain.exists_compile {ε : Type} {compiler : Compiler} (plain : compiler.IsPlain) {json : Json}
    {ids : List String} (known : ∀ id ∈ compiler.wanted ids, id ∈ Catalog.targets.map (·.id)) {spec : Specification}
    (document : Specification.ofDoc compiler.room (Doc.ofJson json) = .ok spec)
    (copied : spec.fingerprintLimit? compiler.room = none) :
    ∃ record, compiler.compileDocument (Doc.ofJson json) ids ({} : Script ε) = .ok record ∧
      compiler.IsVerdict json ids record.outcome := by
  have version := Specification.supportedVersions_of_ofDoc document
  obtain ⟨targets, selected, named, listed⟩ := Registry.exists_select known
  have some : targets ≠ [] := by
    rintro rfl
    exact Registry.selectedIds_ne_nil _ named.symm
  obtain ⟨outcome, concluded, all, status⟩ := plain.exists_conclude spec listed some
  obtain ⟨record, run, rfl⟩ := @exists_rehearse ε _ _ _ _ plain
    (fun target inside => ⟨(plain.generate_eq spec (listed target inside)).1,
      (plain.generate_eq spec (listed target inside)).2.1⟩) _ concluded
  have exitCode : record.outcome.exitCode =
      Specification.verdict (Specification.ofDoc compiler.room (Doc.ofJson json)) := by rw [document, status]; rfl
  have only {other : Specification} (read : Specification.ofDoc compiler.room (Doc.ofJson json) = .ok other) :
      other = spec := Except.ok.inj (read.symm.trans document)
  refine ⟨record, ?_, exitCode, fun other read => ?_, fun other read => ?_, fun other read => ?_, ?_⟩
  · have chosen := selected
    rw [wanted] at chosen
    simp only [compileDocument, document, compile, version, plain.registry, chosen, copied, Bool.not_true,
      Bool.false_eq_true, if_false, Except.mapError, bind, Except.bind]
    exact run
  · rw [all, finalResults, List.map_map, ← named]
    exact List.map_congr_left fun target inside => (plain.generate_eq spec (listed target inside)).2.2.1
  · obtain rfl := only read
    rw [all]
    exact fun result member => plain.isJudged_of_mem listed member
  · obtain rfl := only read
    intro others first second chosen undisturbed
    obtain rfl := Except.ok.inj (selected.symm.trans chosen)
    rw [outcomeAfter_of_isQuiet plain undisturbed.generating undisturbed.generated undisturbed.validating
      undisturbed.validated, concluded]
  · intro surroundings path place text room led stored name written
    rw [exitCode]
    exact check_of_goes (by simp [document]) room led stored name written

/-- A document that is refused has its verdict. -/
theorem exists_refused {ε : Type} {compiler : Compiler} {json : Json} (ids : List String) {fault : DocumentFault}
    (document : Specification.ofDoc compiler.room (Doc.ofJson json) = .error fault)
    (goes : ∀ obstacle, fault ≠ .stopped obstacle) :
    ∃ record, compiler.compileDocument (Doc.ofJson json) ids ({} : Script ε) = .ok record ∧
      compiler.IsVerdict json ids record.outcome := by
  refine ⟨refused (.ofDocument fault), ?_, by rw [document]; rfl, by simp [document], by simp [document],
    by simp [document], fun surroundings path place text room led stored name written => ?_⟩
  · cases fault with
    | stopped obstacle => exact absurd rfl (goes obstacle)
    | rootNotMapping | unsupportedVersion | malformed => simp only [compileDocument, document]
  · obtain ⟨answer, done, status⟩ := check_of_goes (by simpa [document] using goes) room led stored name written
    exact ⟨answer, done, by rw [status, document]; rfl⟩

/-- A run has an outcome exactly when nothing stops the reading of its document or the fingerprint. -/
theorem IsPlain.compileDocument_cases {ε : Type} {compiler : Compiler} (plain : compiler.IsPlain) (json : Json)
    {ids : List String} (known : ∀ id ∈ compiler.wanted ids, id ∈ Catalog.targets.map (·.id)) :
    (json.IsCompilable compiler.room ∧ ∃ record,
      compiler.compileDocument (Doc.ofJson json) ids ({} : Script ε) = .ok record ∧
      compiler.IsVerdict json ids record.outcome) ∨
    ¬ json.IsCompilable compiler.room ∧
      ∃ obstacle, compiler.compileDocument (Doc.ofJson json) ids ({} : Script ε) = .error (.stopped obstacle) := by
  cases document : Specification.ofDoc compiler.room (Doc.ofJson json) with
  | error fault =>
    cases fault with
    | stopped obstacle =>
      exact .inr ⟨fun compilable => compilable.goes obstacle document, obstacle, by
        simp only [compileDocument, document]⟩
    | rootNotMapping | unsupportedVersion | malformed =>
      exact .inl ⟨⟨by simp [document], by simp [document]⟩, exists_refused ids document (by simp)⟩
  | ok spec =>
    cases limit : spec.fingerprintLimit? compiler.room with
    | none =>
      refine .inl ⟨⟨by simp [document], fun other read => ?_⟩, plain.exists_compile known document limit⟩
      rwa [Except.ok.inj (read.symm.trans document)]
    | some met =>
      refine .inr ⟨fun compilable => ?_, .limit met, ?_⟩
      · exact absurd ((compilable.copied spec document).symm.trans limit) (by simp)
      · obtain ⟨targets, selected, -⟩ := Registry.exists_select known
        rw [wanted] at selected
        simp only [compileDocument, document, compile, Specification.supportedVersions_of_ofDoc document, selected,
          plain.registry, limit, Bool.not_true, Bool.false_eq_true, if_false, Except.mapError, bind, Except.bind]

/-- A run over built-in targets has an outcome exactly when neither the reading of its document nor the fingerprint
is stopped, which a document that keeps the limits never is, and the outcome is what the document deserves. -/
theorem compileDocument_verdict {ε : Type} {compiler : Compiler} (plain : compiler.IsPlain) (json : Json)
    {ids : List String} (known : ∀ id ∈ compiler.wanted ids, id ∈ Catalog.targets.map (·.id)) :
    ((∃ record, compiler.compileDocument (Doc.ofJson json) ids ({} : Script ε) = .ok record) ↔
      json.IsCompilable compiler.room) ∧
    (json.IsProper → json.IsShallow compiler.room → json.IsCompilable compiler.room) ∧
    ∀ record, compiler.compileDocument (Doc.ofJson json) ids ({} : Script ε) = .ok record →
      compiler.IsVerdict json ids record.outcome := by
  have keeps (proper : json.IsProper) (shallow : json.IsShallow compiler.room) : json.IsCompilable compiler.room :=
    shallow.isCompilable proper
  rcases @IsPlain.compileDocument_cases ε _ plain json _ known with
    ⟨compilable, record, done, verdict⟩ | ⟨beyond, obstacle, ended⟩
  · refine ⟨iff_of_true ⟨record, done⟩ compilable, keeps, fun other given => ?_⟩
    exact Except.ok.inj (done.symm.trans given) ▸ verdict
  · exact ⟨iff_of_false (by simp [ended]) beyond, keeps, by simp [ended]⟩

/-- A document with a flow whose name gives no identifier. -/
def namelessFlow : Json := .object [
  ("version", .text "0.1.0"),
  ("metadata", .object [("name", .text "shop")]),
  ("flows", .list [.object [("id", .text "pay"), ("name", .text "-")]])]

theorem compileDocument_namelessFlow :
    ∃ record, ({} : Compiler).compileDocument (Doc.ofJson namelessFlow) ["web-vue", "backend-java", "web-vue"]
        ({} : Script Empty) = .ok record ∧
      record.outcome.exitCode = 1 ∧ record.outcome.results.map (·.targetId) = ["web-vue", "backend-java"] := by
  have plain : ({} : Compiler).IsPlain := ⟨rfl, rfl, rfl, rfl⟩
  have status : Specification.verdict (Specification.ofDoc {} (Doc.ofJson namelessFlow)) = 1 := by decide
  obtain ⟨ends, keeps, judges⟩ := @compileDocument_verdict Empty {} plain namelessFlow
    ["web-vue", "backend-java", "web-vue"] (by decide)
  have proper : namelessFlow.IsProper := by
    simp [namelessFlow, Json.IsProper, Json.AreProper, Json.AreProperMembers]
  obtain ⟨record, run⟩ := ends.mpr (keeps proper ⟨4, by decide, by decide, by decide, by decide⟩)
  have verdict := judges record run
  refine ⟨record, run, verdict.exitCode.trans status, ?_⟩
  cases read : Specification.ofDoc {} (Doc.ofJson namelessFlow) with
  | error fault => simp [read, Specification.verdict] at status
  | ok spec => exact verdict.targets spec read

/-- Empty lists in one another. -/
def nestedLists : ℕ → Json
  | 0 => .list []
  | depth + 1 => .list [nestedLists depth]

/-- A document with a field whose default lies deep. -/
def deepDefault (depth : ℕ) : Json := .object [
  ("version", .text "0.1.0"),
  ("metadata", .object [("name", .text "shop")]),
  ("entities", .list [.object [("id", .text "item"), ("name", .text "Item"), ("fields", .list [
    .object [("id", .text "tags"), ("type", .text "json"), ("default", nestedLists depth)]])]])]

/-- The run for a document with a default that lies too deep has no outcome. -/
theorem compileDocument_deepDefault : ∃ obstacle, ({} : Compiler).compileDocument (Doc.ofJson (deepDefault 599))
    ["web-react"] ({} : Script Empty) = .error (.stopped obstacle) := by
  have escapes : ((Specification.ofDoc {} (Doc.ofJson (deepDefault 599))).map fun _ => ()).mapError
      (fun fault => (SpecFileFault.document fault).isRefusal) = .error false := by decide +kernel
  cases read : Specification.ofDoc {} (Doc.ofJson (deepDefault 599)) with
  | ok spec => simp [read, Except.map, Except.mapError] at escapes
  | error fault =>
    cases fault with
    | stopped obstacle => exact ⟨obstacle, by simp only [compileDocument, read]⟩
    | rootNotMapping | unsupportedVersion | malformed =>
      simp [read, Except.map, Except.mapError, SpecFileFault.isRefusal] at escapes

end Compiler

end Prism
