import Prism.Proofs.Emission
import Prism.Proofs.Structure
import Prism.Proofs.Words.Canonical

namespace Prism

/-- The element that a field declares. -/
def Field.declared (field : Field) : ContractElement where
  name := Words.canonical field.id
  family := some field.family
  required := field.required
  nativeType := label field.type

/-- The element that is emitted for a field. -/
def Field.emitted (convention : Convention) (field : Field) : ContractElement where
  name := convention.identifier field.id
  family := some (convention.typeFor field.type).family
  required := field.required
  nativeType := (convention.typeFor field.type).name

theorem Generator.emittedFields_eq (target : Target) (entity : Entity) :
    emittedFields target entity = entity.fields.map (Field.emitted (Convention.of target.language)) := by
  rw [emittedFields, fieldElements, List.map_map]
  rfl

/-- The element that a step declares. -/
def FlowStep.declared (step : FlowStep) : ContractElement where
  name := step.handler
  required := true
  nativeType := label step.type

/-- The element that is emitted for a step. -/
def FlowStep.emitted (convention : Convention) (step : FlowStep) : ContractElement where
  name := convention.stepHandler step.id
  required := true
  nativeType := label step.type

/-- The element that a rule declares. -/
def Enforcement.element (implementation : Enforcement) : ContractElement where
  name := implementation.keyword
  required := true

namespace Comparison

theorem mem_of_counterpart? {contract : Contract} {name : String} {element : ContractElement}
    (found : counterpart? contract name = some element) :
    element ∈ contract.elements ∧ (element.name = name ∨ Words.canonical element.name = name) := by
  rcases eq_some_of_orElse found with byName | byCanonical
  · exact ⟨List.mem_of_find?_eq_some byName, Or.inl (by simpa using List.find?_some byName)⟩
  · exact ⟨List.mem_of_find?_eq_some byCanonical, Or.inr (by simpa using List.find?_some byCanonical)⟩

/-- Among elements that are named for texts, the counterpart of a canonical name is one whose text has it. -/
theorem exists_counterpart? {α : Type} {convention : Convention} {text : α → String} {element : α → ContractElement}
    (named : ∀ item, (element item).name = convention.identifier (text item)) {items : List α} {wanted : String}
    (some : ∃ item ∈ items, Words.canonical (text item) = Words.canonical wanted) (dimension : Dimension)
    (subject : String) :
    ∃ item ∈ items, Words.canonical (text item) = Words.canonical wanted ∧
      counterpart? ⟨dimension, subject, items.map element⟩ (Words.canonical wanted) = .some (element item) := by
  obtain ⟨item, member, same⟩ := some
  cases byName : (items.map element).find? (fun other => other.name = Words.canonical wanted) with
  | some found =>
    obtain ⟨other, inside, rfl⟩ := List.mem_map.mp (List.mem_of_find?_eq_some byName)
    have name : (element other).name = Words.canonical wanted := by simpa using List.find?_some byName
    refine ⟨other, inside, Words.canonical_of_identifier_eq ((named other).symm.trans name), ?_⟩
    simp [counterpart?, Contract.element?, byName]
  | none =>
    have snakes : convention.casing ≠ .camel := by
      intro camel
      have differs := List.find?_eq_none.mp byName (element item) (List.mem_map_of_mem member)
      refine differs (decide_eq_true ?_)
      rw [named, ← same]
      exact Words.identifier_of_camel camel _
    have read (other : α) : Words.canonical (element other).name = Words.canonical (text other) := by
      rw [named]
      exact Words.canonical_identifier_iff.mpr fun camel => absurd camel snakes
    cases found : (items.map element).find? (fun other => Words.canonical other.name = Words.canonical wanted) with
    | none =>
      have differs := List.find?_eq_none.mp found (element item) (List.mem_map_of_mem member)
      exact absurd (decide_eq_true ((read item).trans same)) differs
    | some actual =>
      obtain ⟨other, inside, rfl⟩ := List.mem_map.mp (List.mem_of_find?_eq_some found)
      have name : Words.canonical (element other).name = Words.canonical wanted := by simpa using List.find?_some found
      refine ⟨other, inside, (read other).symm.trans name, ?_⟩
      simp [counterpart?, Contract.element?, byName, found]

/-- An element that is emitted as it was declared does not vary. -/
theorem elementVariations_of_mem {targetId : String} {dimension : Dimension} {subject : String}
    {expected : ContractElement} {contract : Contract} (member : expected ∈ contract.elements)
    (only : ∀ element ∈ contract.elements, element.name = expected.name → element = expected) :
    elementVariations targetId dimension subject expected contract = [] := by
  have found : counterpart? contract expected.name = some expected := by
    cases byName : contract.element? expected.name with
    | none => exact absurd (decide_eq_true rfl) (List.find?_eq_none.mp byName expected member)
    | some element =>
      have name : element.name = expected.name := by simpa using List.find?_some byName
      rw [counterpart?, byName, only element (List.mem_of_find?_eq_some byName) name]
      rfl
  cases family : expected.family <;> simp [elementVariations, found, family]

/-- Every variation of a comparison is one of a declared element whose contract was emitted. -/
theorem mem_variations_iff {targetId : String} {emitted : List Contract} {variation : Variation}
    {declared : Dimension → Option (List Contract)} :
    variation ∈ (compare targetId declared emitted).variations ↔
      ∃ dimension, ∃ contracts ∈ declared dimension, ∃ contract ∈ contracts,
        ∃ actual ∈ emittedFor? emitted dimension contract.subject, ∃ expected ∈ contract.elements,
          variation ∈ elementVariations targetId dimension contract.subject expected actual := by
  simp only [compare, List.mem_flatMap, findings]
  constructor
  · rintro ⟨dimension, _, member⟩
    cases here : declared dimension with
    | none => simp [here] at member
    | some contracts =>
      simp only [here, Option.map_some, Option.getD_some, List.mem_flatten, List.mem_flatMap] at member
      obtain ⟨variations, ⟨contract, inside, finding⟩, member⟩ := member
      cases found : emittedFor? emitted dimension contract.subject with
      | none => simp [contractFindings, found] at finding
      | some actual =>
        simp only [contractFindings, found, List.mem_map] at finding
        obtain ⟨expected, one, rfl⟩ := finding
        exact ⟨dimension, contracts, here, contract, inside, actual, found, expected, one, member⟩
  · rintro ⟨dimension, contracts, here, contract, inside, actual, found, expected, one, member⟩
    refine ⟨dimension, by cases dimension <;> decide, ?_⟩
    rw [Option.mem_def] at here found
    simp only [here, Option.map_some, Option.getD_some, List.mem_flatten, List.mem_flatMap]
    refine ⟨_, ⟨contract, inside, ?_⟩, member⟩
    rw [contractFindings, found]
    exact List.mem_map_of_mem one

end Comparison

/-- The languages of the built-in targets without a type for a time of day. -/
def Target.lacksTime (target : Target) : Bool :=
  target.language = .typescript || target.language = .swift

/-- What a language brings with it: new names of little weight where words are kept apart, and another
family for a field that holds a time of day. -/
def Variation.IsConventional (spec : Specification) (target : Target) (variation : Variation) : Prop :=
  ((Convention.of target.language).casing = .snake ∧ variation.description = "element renamed" ∧
    variation.impact = .low) ∨
  (target.lacksTime = true ∧ variation.description = "type family differs" ∧ ∃ entity ∈ spec.entities,
    variation.subject = entity.subject ∧ ∃ field ∈ entity.fields, field.type = .time ∧
      variation.element = Words.canonical field.id)

theorem Variation.IsConventional.description_mem {spec : Specification} {target : Target} {variation : Variation}
    (conventional : variation.IsConventional spec target) :
    variation.description ∈ ["element renamed", "type family differs"] := by
  rcases conventional with ⟨_, renamed, _⟩ | ⟨_, family, _⟩
  · simp [renamed]
  · simp [family]

/-- A name in a language is the canonical one, or it is new by convention. -/
theorem Variation.renamed_or_isConventional {spec : Specification} {target : Target} {variation : Variation}
    {text wanted : String} (same : Words.canonical text = Words.canonical wanted)
    (description : variation.description = "element renamed") (impact : variation.impact = .low) :
    (Convention.of target.language).identifier text = Words.canonical wanted ∨
      variation.IsConventional spec target := by
  cases casing : (Convention.of target.language).casing with
  | camel => exact Or.inl ((Words.identifier_of_camel casing text).trans same)
  | snake => exact Or.inr (Or.inl ⟨casing, description, impact⟩)

theorem Catalog.family_typeFor {target : Target} (member : target ∈ Catalog.targets) {type : FieldType}
    (timed : ¬ (target.lacksTime = true ∧ type = .time)) :
    ((Convention.of target.language).typeFor type).family = type.family := by
  have languages : ∀ target ∈ Catalog.targets, target.language ∈
      [Language.typescript, .swift, .kotlin, .python, .java] := by decide
  have language := languages target member
  rw [Target.lacksTime] at timed
  generalize target.language = language' at *
  simp only [List.mem_cons, List.not_mem_nil, or_false] at language
  rcases language with rfl | rfl | rfl | rfl | rfl <;> cases type <;>
    first
    | rfl
    | exact absurd ⟨rfl, rfl⟩ timed

section Fields

variable {spec : Specification} {target : Target} {entity : Entity} {field other : Field}

/-- A field of the entity that holds a time of day under the same canonical name, in a language that has no
type for it. -/
def Entity.HidesTime (target : Target) (entity : Entity) (field : Field) : Prop :=
  target.lacksTime = true ∧
    ∃ timed ∈ entity.fields, timed.type = .time ∧ Words.canonical timed.id = Words.canonical field.id

theorem isConventional_family_iff (distinct : spec.IsDistinct) (inside : entity ∈ spec.entities)
    {variation : Variation} (subject : variation.subject = entity.subject)
    (element : variation.element = Words.canonical field.id)
    (description : variation.description = "type family differs") :
    variation.IsConventional spec target ↔ entity.HidesTime target field := by
  rw [Variation.IsConventional, description, subject, element, Entity.HidesTime]
  constructor
  · rintro (⟨_, renamed, _⟩ | ⟨lacks, _, owner, listed, same, timed, member, time, name⟩)
    · exact absurd renamed (by decide)
    · obtain rfl := List.inj_on_of_nodup_map distinct.ids inside listed (Entity.subject_inj.mp same)
      exact ⟨lacks, timed, member, time, name.symm⟩
  · rintro ⟨lacks, timed, member, time, name⟩
    exact Or.inr ⟨lacks, rfl, entity, inside, rfl, timed, member, time, name.symm⟩

theorem forall_mem_unless_iff {P : Variation → Prop} {test : Prop} [Decidable test] {variation : Variation} :
    (∀ found ∈ if test then [] else [variation], P found) ↔ test ∨ P variation := by
  by_cases holds : test <;> simp [holds]

/-- What the variations of a field say, when the field that is taken for it is known. -/
theorem forall_fieldVariations_iff (distinct : spec.IsDistinct) (inside : entity ∈ spec.entities)
    {dimension : Dimension} (shapeless : dimension ≠ .apiContracts) {contract : Contract}
    (same : Words.canonical other.id = Words.canonical field.id)
    (found : Comparison.counterpart? contract (Words.canonical field.id) =
      some (other.emitted (Convention.of target.language))) :
    (∀ variation ∈ Comparison.elementVariations target.id dimension entity.subject field.declared contract,
        variation.IsConventional spec target) ↔
      other.required = field.required ∧
        (((Convention.of target.language).typeFor other.type).family = field.family ∨
          entity.HidesTime target field) := by
  have named : Comparison.counterpart? contract field.declared.name = _ := found
  have family : field.declared.family = some field.family := rfl
  simp only [Comparison.elementVariations, named, family, List.forall_mem_append, forall_mem_unless_iff]
  constructor
  · rintro ⟨⟨⟨_, family⟩, required⟩, _⟩
    refine ⟨required.resolve_right fun odd => absurd odd.description_mem (by simp), family.imp Option.some.inj ?_⟩
    exact (isConventional_family_iff distinct inside rfl rfl rfl).mp
  · rintro ⟨required, family⟩
    refine ⟨⟨⟨Variation.renamed_or_isConventional same rfl rfl, family.imp (congrArg some) ?_⟩, Or.inl required⟩,
      Or.inl (by simp [shapeless])⟩
    exact (isConventional_family_iff distinct inside rfl rfl rfl).mpr

/-- Fields that share a canonical name agree, except for families where one of them holds a time of day that
the language has no type for. -/
def Entity.IsUnambiguous (target : Target) (entity : Entity) : Prop :=
  ∀ field ∈ entity.fields, ∀ other ∈ entity.fields, Words.canonical other.id = Words.canonical field.id →
    other.required = field.required ∧ (other.family = field.family ∨ entity.HidesTime target field)

theorem forall_entityVariations_iff (member : target ∈ Catalog.targets) (distinct : spec.IsDistinct)
    (inside : entity ∈ spec.entities) {dimension : Dimension} (shapeless : dimension ≠ .apiContracts) :
    (∀ field ∈ entity.fields, ∀ variation ∈ Comparison.elementVariations target.id dimension entity.subject
        field.declared ⟨dimension, entity.subject, Generator.emittedFields target entity⟩,
      variation.IsConventional spec target) ↔ entity.IsUnambiguous target := by
  rw [Generator.emittedFields_eq]
  -- One field is taken for all that share its canonical name, so that they are compared with the same element.
  have taken (field : Field) (declared : field ∈ entity.fields) :=
    Comparison.exists_counterpart?
      (fun field : Field => (rfl : (field.emitted (Convention.of target.language)).name = _))
      ⟨field, declared, rfl⟩ dimension entity.subject
  constructor
  · intro conventional field declared other others same
    obtain ⟨chosen, _, named, found⟩ := taken field declared
    obtain ⟨required, family⟩ := (forall_fieldVariations_iff distinct inside shapeless named found).mp
      (conventional field declared)
    rw [← same] at named found
    obtain ⟨requiredOther, familyOther⟩ := (forall_fieldVariations_iff distinct inside shapeless named found).mp
      (conventional other others)
    refine ⟨requiredOther.symm.trans required, ?_⟩
    rw [Entity.HidesTime, same] at familyOther
    rcases family with family | hides
    · exact familyOther.imp_left fun here => here.symm.trans family
    · exact Or.inr hides
  · intro unambiguous field declared
    obtain ⟨chosen, listed, named, found⟩ := taken field declared
    obtain ⟨required, family⟩ := unambiguous field declared chosen listed named
    refine (forall_fieldVariations_iff distinct inside shapeless named found).mpr ⟨required, ?_⟩
    by_cases hides : entity.HidesTime target field
    · exact Or.inr hides
    · left
      rw [Catalog.family_typeFor member fun timed => hides ⟨timed.1, chosen, listed, timed.2, named⟩]
      exact family.resolve_right hides

end Fields

section Steps

variable {spec : Specification} {target : Target} {subject : String}

/-- The handler of a step varies only by convention exactly when the flow that is taken for its own has it. -/
theorem forall_stepVariations_iff {step : FlowStep} {last : Flow} :
    (∀ variation ∈ Comparison.elementVariations target.id .businessLogic subject step.declared
        ⟨.businessLogic, last.subject, Generator.emittedSteps target last⟩, variation.IsConventional spec target) ↔
      ∃ other ∈ last.steps, other.handler = step.handler := by
  have elements : Generator.emittedSteps target last =
      last.steps.map (FlowStep.emitted (Convention.of target.language)) := rfl
  rw [elements]
  constructor
  · intro conventional
    cases found : Comparison.counterpart? ⟨.businessLogic, last.subject,
        last.steps.map (FlowStep.emitted (Convention.of target.language))⟩ step.declared.name with
    | none =>
      have odd := conventional _ (by rw [Comparison.elementVariations, found]; exact List.mem_cons_self)
      exact absurd odd.description_mem (by simp)
    | some actual =>
      obtain ⟨member, named⟩ := Comparison.mem_of_counterpart? found
      obtain ⟨other, inside, rfl⟩ := List.mem_map.mp member
      refine ⟨other, inside, ?_⟩
      by_cases same : (other.emitted (Convention.of target.language)).name = step.declared.name
      · exact Words.canonical_of_identifier_eq same
      · have renamed := conventional _ (by
          rw [Comparison.elementVariations, found]
          simp only [if_neg same, List.cons_append]
          exact List.mem_cons_self)
        have snakes : (Convention.of target.language).casing = .snake := by
          simpa [Variation.IsConventional] using renamed
        have read := (@Words.canonical_identifier_iff (Convention.of target.language) ("handle_" ++ other.id)).mpr
          fun camel => absurd (camel.symm.trans snakes) (by decide)
        exact read.symm.trans (named.resolve_left same)
  · rintro ⟨other, inside, same⟩
    obtain ⟨chosen, _, named, found⟩ := Comparison.exists_counterpart?
      (fun step : FlowStep => (rfl : (step.emitted (Convention.of target.language)).name =
        (Convention.of target.language).identifier ("handle_" ++ step.id)))
      ⟨other, inside, same⟩ .businessLogic last.subject
    have taken : Comparison.counterpart? _ step.declared.name = _ := found
    have family : step.declared.family = none := rfl
    simp only [Comparison.elementVariations, taken, family, List.append_nil, List.forall_mem_append,
      forall_mem_unless_iff]
    exact ⟨⟨Variation.renamed_or_isConventional named rfl rfl, Or.inl rfl⟩, Or.inl rfl⟩

theorem forall_ruleVariations_iff {implementation last : Enforcement} {emittedFor : String} :
    (∀ variation ∈ Comparison.elementVariations target.id .security subject implementation.element
        ⟨.security, emittedFor, [last.element]⟩, variation.IsConventional spec target) ↔ last = implementation := by
  have canonical : ∀ implementation : Enforcement,
      Words.canonical implementation.keyword = implementation.keyword := by
    intro implementation
    cases implementation <;> decide
  have keywords : last.keyword = implementation.keyword → last = implementation := by
    cases last <;> cases implementation <;> decide
  by_cases same : last = implementation
  · subst same
    rw [Comparison.elementVariations_of_mem List.mem_cons_self (by simp)]
    simp
  · refine iff_of_false (fun conventional => ?_) same
    have none : Comparison.counterpart? ⟨.security, emittedFor, [last.element]⟩ implementation.element.name = none := by
      simp [Comparison.counterpart?, Contract.element?, Enforcement.element, canonical, mt keywords same]
    have odd := conventional _ (by rw [Comparison.elementVariations, none]; exact List.mem_cons_self)
    exact absurd odd.description_mem (by simp)

end Steps

/-- The last flow of an id. -/
def Specification.lastFlow? (spec : Specification) (id : String) : Option Flow :=
  spec.flows.reverse.find? (·.id = id)

/-- What keeps variations to the conventions of a language: fields of one canonical name agree, the last flow
of an id has the handlers of all flows with that id, and rules of one id are put into force in the same way. -/
structure Specification.IsUnambiguous (spec : Specification) (target : Target) : Prop where
  entities : ∀ entity ∈ spec.entities, entity.IsUnambiguous target
  steps : ∀ flow ∈ spec.flows, ∀ step ∈ flow.steps, ∃ last ∈ spec.lastFlow? flow.id, ∃ other ∈ last.steps,
    other.handler = step.handler
  rules : ∀ rule ∈ spec.compliance.rules, ∀ other ∈ spec.compliance.rules, other.id = rule.id →
    other.implementation = rule.implementation

namespace Generator

variable {spec : Specification} {target : Target}

theorem emittedFor?_entity (distinct : spec.IsDistinct) {dimension : Dimension} {emission : Entity → Contract × String}
    (emitted : emittedIn spec target dimension = spec.entities.map emission)
    (subjects : ∀ entity, (emission entity).1.subject = entity.subject) {entity : Entity}
    (inside : entity ∈ spec.entities) :
    Comparison.emittedFor? ((artifacts spec target).flatMap (·.contracts)) dimension entity.subject =
      some (emission entity).1 := by
  have nodup : (spec.entities.reverse.map (·.id)).Nodup := by
    rw [List.map_reverse, List.nodup_reverse]
    exact distinct.ids
  have found := find?_of_nodup nodup (List.mem_reverse.mpr inside)
  rw [emittedFor?_artifacts, emitted, ← List.map_reverse, List.find?_map]
  simp only [Function.comp_def, subjects, Entity.subject_inj, found, Option.map_some]

theorem emittedFor?_flow (spec : Specification) (target : Target) (flow : Flow) :
    Comparison.emittedFor? ((artifacts spec target).flatMap (·.contracts)) .businessLogic flow.subject =
      (spec.lastFlow? flow.id).map fun last => ⟨.businessLogic, last.subject, emittedSteps target last⟩ := by
  simp only [emittedFor?_artifacts, emittedIn, ← List.map_reverse, List.find?_map, Function.comp_def,
    Flow.subject_inj, Specification.lastFlow?, Option.map_map]

theorem emittedFor?_rule (spec : Specification) (target : Target) (rule : ComplianceRule) :
    Comparison.emittedFor? ((artifacts spec target).flatMap (·.contracts)) .security rule.subject =
      (spec.compliance.rules.reverse.find? (·.id = rule.id)).map fun last =>
        ⟨.security, last.subject, [last.implementation.element]⟩ := by
  simp only [emittedFor?_artifacts, emittedIn, ← List.map_reverse, List.find?_map, Function.comp_def,
    ComplianceRule.subject_inj, Option.map_map]
  rfl

theorem variations_operation {entity : Entity} {dimension : Dimension} {subject : String} {expected : ContractElement}
    (one : expected ∈ entity.operationElements) :
    Comparison.elementVariations target.id dimension subject expected
      ⟨dimension, subject, entity.operationElements⟩ = [] := by
  obtain ⟨operation, _, rfl⟩ := List.mem_map.mp one
  refine Comparison.elementVariations_of_mem one fun element member same => ?_
  obtain ⟨other, _, rfl⟩ := List.mem_map.mp member
  have names : other.name = operation.name → other = operation := by
    cases other <;> cases operation <;> decide
  rw [names same]

theorem variations_error {dimension : Dimension} {subject : String} {expected : ContractElement}
    (one : expected ∈ spec.errorElements) :
    Comparison.elementVariations target.id dimension subject expected
      ⟨dimension, subject, spec.errorElements⟩ = [] := by
  obtain ⟨code, _, rfl⟩ := List.mem_map.mp one
  refine Comparison.elementVariations_of_mem one fun element member same => ?_
  obtain ⟨other, _, rfl⟩ := List.mem_map.mp member
  exact congrArg (fun name => ({ name, required := true } : ContractElement)) same

theorem isConventional_of_isUnambiguous (member : target ∈ Catalog.targets) (distinct : spec.IsDistinct)
    (unambiguous : spec.IsUnambiguous target) {variation : Variation}
    (varies : variation ∈ (comparison spec target).variations) : variation.IsConventional spec target := by
  obtain ⟨dimension, contracts, declared, contract, inside, actual, found, expected, one, varies⟩ :=
    Comparison.mem_variations_iff.mp varies
  rw [Option.mem_def, Specification.declared, Option.ite_none_right_eq_some] at declared
  obtain ⟨applies, ⟨⟩⟩ := declared
  have field {dimension : Dimension} (shapeless : dimension ≠ .apiContracts) {entity : Entity}
      (listed : entity ∈ spec.entities) {expected : ContractElement} (one : expected ∈ entity.fieldElements)
      (varies : variation ∈ Comparison.elementVariations target.id dimension entity.subject expected
        ⟨dimension, entity.subject, emittedFields target entity⟩) : variation.IsConventional spec target := by
    obtain ⟨field, declared, rfl⟩ := List.mem_map.mp one
    exact (forall_entityVariations_iff member distinct listed shapeless).mpr (unambiguous.entities entity listed)
      field declared variation varies
  cases dimension with
  | dataModels =>
    obtain ⟨entity, listed, rfl⟩ := List.mem_map.mp inside
    obtain rfl := Option.some.inj (found.symm.trans (emittedFor?_entity distinct rfl (fun _ => rfl) listed))
    exact field (by decide) listed one varies
  | userInterface =>
    obtain ⟨entity, listed, rfl⟩ := List.mem_map.mp inside
    have interface : target.hasUserInterface = true := by simpa [Target.applies] using applies
    have emitted : emittedIn spec target .userInterface = spec.entities.map fun entity =>
        (⟨.userInterface, entity.subject, emittedFields target entity⟩,
          (componentArtifact spec target entity).content) := if_pos interface
    obtain rfl := Option.some.inj (found.symm.trans (emittedFor?_entity distinct emitted (fun _ => rfl) listed))
    exact field (by decide) listed one varies
  | apiContracts =>
    obtain ⟨entity, listed, rfl⟩ := List.mem_map.mp inside
    obtain rfl := Option.some.inj (found.symm.trans (emittedFor?_entity distinct rfl (fun _ => rfl) listed))
    rw [variations_operation one] at varies
    exact absurd varies List.not_mem_nil
  | errorHandling =>
    obtain ⟨entity, listed, rfl⟩ := List.mem_map.mp inside
    obtain rfl := Option.some.inj (found.symm.trans (emittedFor?_entity distinct rfl (fun _ => rfl) listed))
    rw [variations_error one] at varies
    exact absurd varies List.not_mem_nil
  | businessLogic =>
    obtain ⟨flow, listed, rfl⟩ := List.mem_map.mp inside
    obtain ⟨last, here, rfl⟩ := Option.map_eq_some_iff.mp ((emittedFor?_flow spec target flow).symm.trans found)
    obtain ⟨step, declared, rfl⟩ := List.mem_map.mp one
    obtain ⟨other, there, handled⟩ := unambiguous.steps flow listed step declared
    obtain rfl := Option.some.inj (there.symm.trans here)
    exact forall_stepVariations_iff.mpr handled variation varies
  | security =>
    obtain ⟨rule, listed, rfl⟩ := List.mem_map.mp inside
    obtain ⟨last, here, rfl⟩ := Option.map_eq_some_iff.mp ((emittedFor?_rule spec target rule).symm.trans found)
    obtain rfl := List.mem_singleton.mp one
    have same : last.id = rule.id := by simpa using List.find?_some here
    exact forall_ruleVariations_iff.mpr
      (unambiguous.rules rule listed last (List.mem_reverse.mp (List.mem_of_find?_eq_some here)) same) variation varies

theorem isUnambiguous_of_isConventional (member : target ∈ Catalog.targets) (distinct : spec.IsDistinct)
    (conventional : ∀ variation ∈ (comparison spec target).variations, variation.IsConventional spec target) :
    spec.IsUnambiguous target := by
  have compared {dimension : Dimension} (applies : target.applies dimension = true) {contract : Contract}
      (inside : contract ∈ spec.contractsIn dimension) {actual : Contract}
      (found : Comparison.emittedFor? ((artifacts spec target).flatMap (·.contracts)) dimension contract.subject =
        some actual) {expected : ContractElement} (one : expected ∈ contract.elements) :
      ∀ variation ∈ Comparison.elementVariations target.id dimension contract.subject expected actual,
        variation.IsConventional spec target := fun variation varies =>
    conventional variation (Comparison.mem_variations_iff.mpr
      ⟨dimension, _, if_pos applies, contract, inside, actual, found, expected, one, varies⟩)
  constructor
  · intro entity listed
    have found := emittedFor?_entity distinct (rfl : emittedIn spec target .dataModels = _) (fun _ => rfl) listed
    have shapeless : Dimension.dataModels ≠ .apiContracts := by decide
    have inside : ⟨.dataModels, entity.subject, entity.fieldElements⟩ ∈ spec.contractsIn .dataModels :=
      List.mem_map_of_mem listed
    exact (forall_entityVariations_iff member distinct listed shapeless).mp fun field declared =>
      compared rfl inside found (List.mem_map_of_mem declared)
  · intro flow listed step declared
    obtain ⟨last, _, _, here⟩ := @exists_find? _ Flow.id _ _ (List.mem_reverse.mpr listed)
    have found := emittedFor?_flow spec target flow
    rw [Specification.lastFlow?, here] at found
    have inside : ⟨.businessLogic, flow.subject, flow.stepElements⟩ ∈ spec.contractsIn .businessLogic :=
      List.mem_map_of_mem listed
    exact ⟨last, here, forall_stepVariations_iff.mp (compared rfl inside found (List.mem_map_of_mem declared))⟩
  · intro rule listed other others same
    obtain ⟨last, _, _, here⟩ := @exists_find? _ ComplianceRule.id _ _ (List.mem_reverse.mpr listed)
    have implemented {rule : ComplianceRule} (listed : rule ∈ spec.compliance.rules)
        (here : spec.compliance.rules.reverse.find? (·.id = rule.id) = some last) :
        last.implementation = rule.implementation := by
      have found := emittedFor?_rule spec target rule
      rw [here] at found
      have inside : ⟨.security, rule.subject, [rule.implementation.element]⟩ ∈ spec.contractsIn .security :=
        List.mem_map_of_mem listed
      exact forall_ruleVariations_iff.mp (compared rfl inside found List.mem_cons_self)
    rw [← implemented listed here, implemented others (by rw [same]; exact here)]

theorem substitutions_of_catalog (member : target ∈ Catalog.targets) (artifacts : List Artifact) :
    substitutions target (artifacts.map (bundledRendered target)) = [] := by
  have own : target.framework.ownSet?.isNone = false :=
    (by decide : ∀ target ∈ Catalog.targets, target.framework.ownSet?.isNone = false) target member
  simp [substitutions, bundledRendered, own, List.filter_map, Function.comp_def]

theorem forall_variations_iff {result : GenerationResult} (generated : IsGenerated spec target result)
    (member : target ∈ Catalog.targets) (distinct : spec.IsDistinct) :
    (∀ variation ∈ result.variations, variation.IsConventional spec target) ↔ spec.IsUnambiguous target := by
  rw [generated.variations, substitutions_of_catalog member, List.nil_append]
  exact ⟨isUnambiguous_of_isConventional member distinct,
    fun unambiguous _ => isConventional_of_isUnambiguous member distinct unambiguous⟩

/-- For every specification without structural errors each built-in target has a result. Its variations all
come from the conventions of the target exactly when the specification is not ambiguous for it; targets with
a type for every field and camel-cased names then have none. -/
theorem generate_variations_iff (valid : spec.structuralErrors = []) (member : target ∈ Catalog.targets) :
    ∃ result, generate .builtin spec target = .ok result ∧ result.success = true ∧
      ((∀ variation ∈ result.variations, variation.IsConventional spec target) ↔ spec.IsUnambiguous target) ∧
      (target = Catalog.backendJava ∨ target = Catalog.mobileAndroidKotlin →
        (result.variations = [] ↔ spec.IsUnambiguous target)) := by
  obtain ⟨result, generates, generated⟩ := exists_generate valid (Catalog.isMeasured member)
  have conventional := forall_variations_iff generated member (Specification.isDistinct_of_structuralErrors valid)
  refine ⟨result, generates, generated.success, conventional, fun plain => ?_⟩
  have none (variation : Variation) : ¬ variation.IsConventional spec target := by
    rcases plain with rfl | rfl <;> rintro (⟨casing, _⟩ | ⟨lacks, _⟩)
    · exact absurd casing (by decide)
    · exact absurd lacks (by decide)
    · exact absurd casing (by decide)
    · exact absurd lacks (by decide)
  rw [← conventional, List.eq_nil_iff_forall_not_mem]
  exact forall_congr' fun variation =>
    ⟨fun absent inside => absurd inside absent, fun all inside => none _ (all inside)⟩

/-- An entity with a field that holds a time of day. -/
def timedShift : Specification where
  metadata := { name := "shop" }
  entities := [{ id := "shift", name := "Shift", fields := [{ id := "starts_at", name := "Start", type := .time }] }]

theorem generate_variations_timedShift :
    ∃ result, generate .builtin timedShift Catalog.backendJava = .ok result ∧ result.variations = [] := by
  obtain ⟨result, generates, _, _, plain⟩ := generate_variations_iff
    (by decide : timedShift.structuralErrors = [])
    (by simp [Catalog.targets] : Catalog.backendJava ∈ Catalog.targets)
  refine ⟨result, generates, (plain (Or.inl rfl)).mpr ⟨?_, by simp [timedShift], by simp [timedShift]⟩⟩
  simp [timedShift, Entity.IsUnambiguous]

/-- Two rules of one id that are put into force in different ways. -/
def twinRules : Specification where
  metadata := { name := "shop" }
  compliance := { rules := [{ id := "keep", name := "Keep", implementation := .encryption },
    { id := "keep", name := "Check", implementation := .validation }] }

/-- A target that brings no variations with it still has one. -/
theorem generate_variations_unconventional :
    twinRules.structuralErrors = [] ∧ Catalog.backendJava ∈ Catalog.targets ∧
      ∃ result, generate .builtin twinRules Catalog.backendJava = .ok result ∧
        ∃ variation ∈ result.variations, ¬ variation.IsConventional twinRules Catalog.backendJava := by
  have valid : twinRules.structuralErrors = [] := by decide
  have member : Catalog.backendJava ∈ Catalog.targets := by simp [Catalog.targets]
  obtain ⟨result, generates, generated⟩ := exists_generate valid (Catalog.isMeasured member)
  refine ⟨valid, member, result, generates, ?_⟩
  by_contra conventional
  have unambiguous := (forall_variations_iff generated member (Specification.isDistinct_of_structuralErrors valid)).mp
    (by simpa using conventional)
  have same := unambiguous.rules _ List.mem_cons_self _ (List.mem_cons_of_mem _ List.mem_cons_self) rfl
  exact absurd same (by decide)

end Generator

end Prism
