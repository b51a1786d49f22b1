import Prism.Contract.Declared
import Prism.Proofs.Fallible
import Prism.Proofs.Words.Basic
import Prism.Spec.Structure

namespace Prism

theorem Entity.subject_inj {entity other : Entity} : entity.subject = other.subject ↔ entity.id = other.id := by
  rw [subject, subject, String.append_right_inj]

theorem Flow.subject_inj {flow other : Flow} : flow.subject = other.subject ↔ flow.id = other.id := by
  rw [subject, subject, String.append_right_inj]

theorem ComplianceRule.subject_inj {rule other : ComplianceRule} :
    rule.subject = other.subject ↔ rule.id = other.id := by
  rw [subject, subject, String.append_right_inj]

/-- Every text has a key, and no two have the same. -/
structure Words.HaveKeys (texts : List String) : Prop where
  filled : ∀ text ∈ texts, key text ≠ ""
  distinct : (texts.map key).Nodup

section Keys

variable {α : Type} {items : List α} {name : α → String}

theorem Words.HaveKeys.nodup_map (keys : HaveKeys (items.map name)) :
    (items.map fun item => key (name item)).Nodup := by
  have distinct := keys.distinct
  rwa [List.map_map] at distinct

theorem Words.HaveKeys.splitChars_ne_nil (keys : HaveKeys (items.map name)) {item : α} (member : item ∈ items) :
    splitChars (name item).toList ≠ [] := by
  have filled := keys.filled _ (List.mem_map_of_mem member)
  rwa [ne_eq, key_eq_empty_iff] at filled

end Keys

/-- Some field has the text for its id or its name. -/
def Entity.HasField (entity : Entity) (reference : String) : Prop :=
  ∃ field ∈ entity.fields, field.id = reference ∨ field.name = reference

theorem Entity.fieldNamed?_isSome_iff {entity : Entity} {reference : String} :
    (entity.fieldNamed? reference).isSome = true ↔ entity.HasField reference := by
  simp [fieldNamed?, HasField]

namespace Specification

/-- Some entity has the text for its id or its name. -/
def HasEntity (spec : Specification) (reference : String) : Prop :=
  ∃ entity ∈ spec.entities, entity.id = reference ∨ entity.name = reference

theorem entity?_isSome_iff {spec : Specification} {reference : String} :
    (spec.entity? reference).isSome = true ↔ spec.HasEntity reference := by
  simp [entity?, HasEntity]

theorem duplicateErrors_eq_nil_iff {seen ids : List String} :
    duplicateErrors seen ids = [] ↔ ids.Nodup ∧ ∀ id ∈ ids, id ∉ seen := by
  induction ids generalizing seen with
  | nil => simp [duplicateErrors]
  | cons id ids ih =>
    rw [duplicateErrors, List.nodup_cons, List.forall_mem_cons]
    by_cases member : id ∈ seen
    · simp [member]
    · rw [if_neg (by simpa using member), ih]
      simp only [List.mem_cons, not_or]
      constructor
      · rintro ⟨distinct, fresh⟩
        exact ⟨⟨fun again => (fresh id again).1 rfl, distinct⟩, member, fun other inside => (fresh other inside).2⟩
      · rintro ⟨⟨once, distinct⟩, _, fresh⟩
        exact ⟨distinct, fun other inside => ⟨fun same => once (same ▸ inside), fresh other inside⟩⟩

/-- A group of names has no errors when every name has a key and no two have the same. -/
theorem nameErrors_eq_nil_iff {group : NameGroup} {held names : List (String × String)} :
    nameErrors group held names = [] ↔
      (∀ pair ∈ names, Words.key pair.2 ≠ "") ∧ (names.map fun pair => Words.key pair.2).Nodup ∧
        ∀ pair ∈ names, Words.key pair.2 ∉ held.map (·.1) := by
  induction names generalizing held with
  | nil => simp [nameErrors]
  | cons pair names ih =>
    obtain ⟨id, name⟩ := pair
    rw [List.forall_mem_cons, List.map_cons, List.nodup_cons, List.forall_mem_cons]
    by_cases empty : Words.key name = ""
    · simp [nameErrors, empty]
    · have given : (Words.key name).isEmpty = false := by simpa using empty
      by_cases member : Words.key name ∈ held.map (·.1)
      · cases found : held.lookup (Words.key name) with
        | none =>
          obtain ⟨holder, inside, same⟩ := List.mem_map.mp member
          have differs := List.lookup_eq_none_iff.mp found holder inside
          simp [same] at differs
        | some holder => simp [nameErrors, given, found, member]
      · have found : held.lookup (Words.key name) = none := by
          refine List.lookup_eq_none_iff.mpr fun holder inside => ?_
          rw [bne_iff_ne]
          exact fun same => member (same ▸ List.mem_map_of_mem inside)
        simp only [nameErrors, given, found, Bool.false_eq_true, if_false, ih, List.map_cons, List.mem_cons, not_or]
        constructor
        · rintro ⟨filled, distinct, fresh⟩
          refine ⟨⟨empty, filled⟩, ⟨?_, distinct⟩, member, fun other inside => (fresh other inside).2⟩
          intro again
          obtain ⟨other, inside, same⟩ := List.mem_map.mp again
          exact (fresh other inside).1 same
        · rintro ⟨⟨_, filled⟩, ⟨once, distinct⟩, _, fresh⟩
          refine ⟨filled, distinct, fun other inside => ⟨?_, fresh other inside⟩⟩
          intro same
          exact once (List.mem_map.mpr ⟨other, inside, same⟩)

theorem nameErrors_nil_eq_nil_iff {α : Type} {group : NameGroup} {id name : α → String} {items : List α} :
    nameErrors group [] (items.map fun item => (id item, name item)) = [] ↔ Words.HaveKeys (items.map name) := by
  have keys : ((items.map fun item => (id item, name item)).map fun pair => Words.key pair.2) =
      (items.map name).map Words.key := by rw [List.map_map, List.map_map]; rfl
  rw [nameErrors_eq_nil_iff, keys, List.forall_mem_map]
  constructor
  · rintro ⟨filled, distinct, _⟩
    exact ⟨List.forall_mem_map.mpr filled, distinct⟩
  · rintro ⟨filled, distinct⟩
    exact ⟨fun item member => filled _ (List.mem_map_of_mem member), distinct, fun _ _ => List.not_mem_nil⟩

/-- References are looked at one by one, and each that fails its test is an error. -/
theorem filterMap_errors_eq_nil_iff {α : Type} {test : α → Bool} {error : α → StructuralError} {items : List α} :
    (items.filterMap fun item => if test item then none else some (error item)) = [] ↔
      ∀ item ∈ items, test item = true := by
  rw [List.filterMap_eq_nil_iff]
  refine forall₂_congr fun item _ => ?_
  split <;> simp_all

section Sections

variable {spec : Specification}

theorem entityErrors_eq_nil_iff {entity : Entity} :
    spec.entityErrors entity = [] ↔
      (∀ relationship ∈ entity.relationships, spec.HasEntity relationship.targetEntity) ∧
      (∀ constraint ∈ entity.constraints, ∀ name ∈ constraint.fields, entity.HasField name) ∧
      ∀ index ∈ entity.indexes, ∀ name ∈ index.fields, entity.HasField name := by
  simp only [entityErrors, List.append_eq_nil_iff, List.flatMap_eq_nil_iff, filterMap_errors_eq_nil_iff,
    entity?_isSome_iff, Entity.fieldNamed?_isSome_iff, and_assoc]

theorem stepErrors_eq_nil_iff {flow : Flow} {step : FlowStep} :
    spec.stepErrors flow step = [] ↔
      (∀ next ∈ step.nextSteps, ∃ other ∈ flow.steps, other.id = next) ∧
      ∀ reference ∈ step.entity, reference ≠ "" → spec.HasEntity reference := by
  rw [stepErrors, List.append_eq_nil_iff, filterMap_errors_eq_nil_iff]
  refine and_congr (by simp) ?_
  cases step.entity with
  | none => simp
  | some reference =>
    by_cases empty : reference = "" <;> simp [empty, ← entity?_isSome_iff, Option.isSome_iff_ne_none]

theorem componentErrors_eq_nil_iff {component : Component} :
    spec.componentErrors component = [] ↔
      ∀ dependency ∈ component.dependencies, ∃ other ∈ spec.architecture.components, other.id = dependency := by
  rw [componentErrors, filterMap_errors_eq_nil_iff]
  simp

theorem ruleErrors_eq_nil_iff {rule : ComplianceRule} :
    spec.ruleErrors rule = [] ↔ (rule.location ≠ "*" → rule.location ≠ "" → spec.HasEntity rule.location) := by
  rw [ruleErrors, ← entity?_isSome_iff, ComplianceRule.isGeneral]
  by_cases everywhere : rule.location = "*" <;> by_cases nowhere : rule.location = "" <;>
    simp [everywhere, nowhere, Option.isSome_iff_ne_none]

end Sections

/-- The rules that a specification keeps when it has no structural errors. -/
structure IsSound (spec : Specification) : Prop where
  ids : (spec.entities.map (·.id)).Nodup
  entityNames : Words.HaveKeys (spec.entities.map (·.name))
  flowNames : Words.HaveKeys (spec.flows.map (·.name))
  componentNames : Words.HaveKeys (spec.architecture.components.map (·.name))
  fieldIds : ∀ entity ∈ spec.entities, Words.HaveKeys (entity.fields.map (·.id))
  relationships : ∀ entity ∈ spec.entities, ∀ relationship ∈ entity.relationships,
    spec.HasEntity relationship.targetEntity
  constraints : ∀ entity ∈ spec.entities, ∀ constraint ∈ entity.constraints, ∀ name ∈ constraint.fields,
    entity.HasField name
  indexes : ∀ entity ∈ spec.entities, ∀ index ∈ entity.indexes, ∀ name ∈ index.fields, entity.HasField name
  nextSteps : ∀ flow ∈ spec.flows, ∀ step ∈ flow.steps, ∀ next ∈ step.nextSteps,
    ∃ other ∈ flow.steps, other.id = next
  stepEntities : ∀ flow ∈ spec.flows, ∀ step ∈ flow.steps, ∀ reference ∈ step.entity, reference ≠ "" →
    spec.HasEntity reference
  dependencies : ∀ component ∈ spec.architecture.components, ∀ dependency ∈ component.dependencies,
    ∃ other ∈ spec.architecture.components, other.id = dependency
  locations : ∀ rule ∈ spec.compliance.rules, rule.location ≠ "*" → rule.location ≠ "" →
    spec.HasEntity rule.location

section Sound

variable {spec : Specification}

theorem isSound_of_structuralErrors (valid : spec.structuralErrors = []) : spec.IsSound := by
  simp only [structuralErrors, entityNameErrors, List.append_eq_nil_iff, List.flatMap_eq_nil_iff,
    duplicateErrors_eq_nil_iff, nameErrors_nil_eq_nil_iff, entityErrors_eq_nil_iff, stepErrors_eq_nil_iff,
    componentErrors_eq_nil_iff, ruleErrors_eq_nil_iff] at valid
  obtain ⟨⟨⟨⟨⟨ids, names⟩, entities⟩, steps⟩, components⟩, rules⟩ := valid
  obtain ⟨⟨⟨entityNames, flowNames⟩, componentNames⟩, fieldIds⟩ := names
  exact {
    ids := ids.1
    entityNames
    flowNames
    componentNames
    fieldIds
    relationships := fun entity member => (entities entity member).1
    constraints := fun entity member => (entities entity member).2.1
    indexes := fun entity member => (entities entity member).2.2
    nextSteps := fun flow member step inside => (steps flow member step inside).1
    stepEntities := fun flow member step inside => (steps flow member step inside).2
    dependencies := components
    locations := rules }

theorem IsSound.structuralErrors (sound : spec.IsSound) : spec.structuralErrors = [] := by
  simp only [Specification.structuralErrors, entityNameErrors, List.append_eq_nil_iff, List.flatMap_eq_nil_iff,
    duplicateErrors_eq_nil_iff, nameErrors_nil_eq_nil_iff, entityErrors_eq_nil_iff, stepErrors_eq_nil_iff,
    componentErrors_eq_nil_iff, ruleErrors_eq_nil_iff]
  refine ⟨⟨⟨⟨⟨?ids, ?names⟩, ?entities⟩, ?steps⟩, sound.dependencies⟩, sound.locations⟩
  case ids => exact ⟨sound.ids, fun _ _ => List.not_mem_nil⟩
  case names => exact ⟨⟨⟨sound.entityNames, sound.flowNames⟩, sound.componentNames⟩, sound.fieldIds⟩
  case entities =>
    intro entity member
    exact ⟨sound.relationships entity member, sound.constraints entity member, sound.indexes entity member⟩
  case steps =>
    intro flow member step inside
    exact ⟨sound.nextSteps flow member step inside, sound.stepEntities flow member step inside⟩

/-- A specification has no structural errors exactly when it is sound. -/
theorem structuralErrors_eq_nil_iff : spec.structuralErrors = [] ↔ spec.IsSound :=
  ⟨isSound_of_structuralErrors, IsSound.structuralErrors⟩

end Sound

/-- Distinct ids of entities, and distinct keys in every group of names. -/
structure IsDistinct (spec : Specification) : Prop where
  ids : (spec.entities.map (·.id)).Nodup
  entities : (spec.entities.map fun entity => Words.key entity.name).Nodup
  flows : (spec.flows.map fun flow => Words.key flow.name).Nodup
  components : (spec.architecture.components.map fun component => Words.key component.name).Nodup
  fields : ∀ entity ∈ spec.entities, (entity.fields.map fun field => Words.key field.id).Nodup

theorem isDistinct_of_structuralErrors {spec : Specification} (valid : spec.structuralErrors = []) :
    spec.IsDistinct := by
  have sound := isSound_of_structuralErrors valid
  exact ⟨sound.ids, sound.entityNames.nodup_map, sound.flowNames.nodup_map, sound.componentNames.nodup_map,
    fun entity member => (sound.fieldIds entity member).nodup_map⟩

/-- Every name that files are named after has words. -/
structure IsNamed (spec : Specification) : Prop where
  entities : ∀ entity ∈ spec.entities, Words.splitChars entity.name.toList ≠ []
  flows : ∀ flow ∈ spec.flows, Words.splitChars flow.name.toList ≠ []
  components : ∀ component ∈ spec.architecture.components, Words.splitChars component.name.toList ≠ []

theorem isNamed_of_structuralErrors {spec : Specification} (valid : spec.structuralErrors = []) : spec.IsNamed := by
  have sound := isSound_of_structuralErrors valid
  exact ⟨fun _ => sound.entityNames.splitChars_ne_nil, fun _ => sound.flowNames.splitChars_ne_nil,
    fun _ => sound.componentNames.splitChars_ne_nil⟩

end Specification

end Prism
