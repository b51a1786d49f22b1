import Prism.Proofs.Structure
import Prism.View

namespace Prism.Specification

/-- The entities in front of the one with that id. -/
def entitiesBefore (spec : Specification) (id : String) : List Entity :=
  spec.entities.takeWhile fun other => other.id ≠ id

section Ids

variable {spec : Specification} {entity : Entity}

theorem exists_entitiesBefore (distinct : (spec.entities.map (·.id)).Nodup) (member : entity ∈ spec.entities) :
    ∃ after, spec.entities = spec.entitiesBefore entity.id ++ entity :: after := by
  obtain ⟨before, after, parts⟩ := List.append_of_mem member
  rw [parts, List.map_append, List.map_cons, List.nodup_append] at distinct
  have others : ∀ other ∈ before, decide (other.id ≠ entity.id) = true := fun other inside =>
    decide_eq_true (distinct.2.2 _ (List.mem_map_of_mem inside) _ (List.mem_cons_self ..))
  refine ⟨after, ?_⟩
  rw [entitiesBefore, parts, List.takeWhile_append_of_pos others, List.takeWhile_cons_of_neg (by simp), List.append_nil]

/-- An id finds its own entity exactly when none in front of it has the id for a name. -/
theorem entity?_id_iff (distinct : (spec.entities.map (·.id)).Nodup) (member : entity ∈ spec.entities) :
    spec.entity? entity.id = some entity ↔ ∀ other ∈ spec.entitiesBefore entity.id, other.name ≠ entity.id := by
  obtain ⟨after, parts⟩ := exists_entitiesBefore distinct member
  have differs : ∀ other ∈ spec.entitiesBefore entity.id, other.id ≠ entity.id := by
    intro other inside
    simpa using List.mem_takeWhile_imp (p := fun other : Entity => decide (other.id ≠ entity.id)) inside
  rw [entity?, parts, List.find?_append, List.find?_cons_of_pos (by simp)]
  cases found : (spec.entitiesBefore entity.id).find? fun other => other.id = entity.id || other.name = entity.id with
  | none =>
    have none := List.find?_eq_none.mp found
    simp only [Option.none_or, true_iff]
    exact fun other inside same => none other inside (by simp [same])
  | some other =>
    have inside := List.mem_of_find?_eq_some found
    have named : other.name = entity.id := by
      have hit := List.find?_some found
      simpa [differs other inside] using hit
    simp only [Option.some_or, Option.some.injEq]
    constructor
    · rintro rfl
      exact absurd rfl (differs other inside)
    · exact fun unnamed => absurd named (unnamed other inside)

/-- An id that no entity in front bears as its name leads to its own entity, so that relationships and steps
which refer to the entity by its id show its class. Rules show the id as it is. -/
theorem id_resolves (valid : spec.structuralErrors = []) (member : entity ∈ spec.entities)
    (unnamed : ∀ other ∈ spec.entitiesBefore entity.id, other.name ≠ entity.id) :
    spec.entity? entity.id = some entity ∧ ∀ language,
      let convention := Convention.of language
      let className := (EntityView.of spec convention entity).className
      (∀ owner ∈ spec.entities, ∀ relationship ∈ owner.relationships, relationship.targetEntity = entity.id →
        (RelationView.of spec convention relationship).targetClass = className) ∧
      (∀ flow ∈ spec.flows, ∀ step ∈ flow.steps, step.entity = some entity.id → entity.id ≠ "" →
        (StepView.of spec convention flow step).entityClass = className) ∧
      ∀ rule ∈ spec.compliance.rules, rule.location = entity.id → entity.id ≠ "" →
        (RuleView.of convention rule).location = entity.id := by
  have found := (entity?_id_iff (isDistinct_of_structuralErrors valid).ids member).mpr unnamed
  refine ⟨found, fun language => ⟨?_, ?_, ?_⟩⟩
  · intro owner _ relationship _ refers
    simp only [RelationView.of, Relationship.targetClass, refers, found, EntityView.of]
  · intro flow _ step _ refers filled
    have shown : (step.entity.filter (!·.isEmpty)).bind spec.entity? = some entity := by
      rw [refers, Option.filter_some_pos (by simpa using filled), Option.bind_some, found]
    simp only [StepView.of, shown, EntityView.of]
  · intro rule _ refers filled
    simp [RuleView.of, refers, filled]

end Ids

/-- An entity whose id can be taken for a name. -/
def product : Entity where
  id := "item"
  name := "Product"

/-- It stands behind an entity that has its id for a name; a relationship, a step and a rule refer to it. -/
def namesake : Specification where
  metadata := { name := "shop" }
  entities := [
    { id := "basket", name := "item"
      relationships := [
        { id := "content", name := "content", type := "one-to-many", targetEntity := "item", onDelete := none }] },
    product]
  flows := [
    { id := "sell", name := "Sell", steps := [{ id := "pick", name := "Pick", type := .form, entity := "item" }] }]
  compliance := { rules := [{ id := "keep", name := "Keep", implementation := .encryption, location := "item" }] }

/-- The same with the entity in front. -/
def turnedNamesake : Specification := { namesake with entities := namesake.entities.reverse }

theorem id_resolves_turnedNamesake :
    turnedNamesake.structuralErrors = [] ∧ product ∈ turnedNamesake.entities ∧
      (∀ other ∈ turnedNamesake.entitiesBefore product.id, other.name ≠ product.id) ∧
      turnedNamesake.entity? product.id = some product ∧
      (∀ owner ∈ turnedNamesake.entities, ∀ relationship ∈ owner.relationships,
        (RelationView.of turnedNamesake .typescript relationship).targetClass = "Product") ∧
      ∀ flow ∈ turnedNamesake.flows, ∀ step ∈ flow.steps,
        (StepView.of turnedNamesake .typescript flow step).entityClass = "Product" := by
  have valid : turnedNamesake.structuralErrors = [] := by decide
  have member : product ∈ turnedNamesake.entities := List.mem_cons_self ..
  have unnamed : ∀ other ∈ turnedNamesake.entitiesBefore product.id, other.name ≠ product.id := by decide
  obtain ⟨found, views⟩ := id_resolves valid member unnamed
  obtain ⟨relationships, steps, _⟩ := views .typescript
  have className : (EntityView.of turnedNamesake .typescript product).className = "Product" := by decide
  refine ⟨valid, member, unnamed, found, ?_, ?_⟩
  · intro owner inOwners relationship inside
    have refers : relationship.targetEntity = product.id :=
      (by decide : ∀ owner ∈ turnedNamesake.entities, ∀ relationship ∈ owner.relationships,
        relationship.targetEntity = product.id) owner inOwners relationship inside
    exact (relationships owner inOwners relationship inside refers).trans className
  · intro flow inFlows step inside
    have refers : step.entity = some product.id :=
      (by decide : ∀ flow ∈ turnedNamesake.flows, ∀ step ∈ flow.steps, step.entity = some product.id)
        flow inFlows step inside
    exact (steps flow inFlows step inside refers (by decide)).trans className

/-- Behind its namesake the entity is not found by its id, the relationship and the step show the other class,
and the rule shows no class. -/
theorem id_resolves_elsewhere :
    namesake.structuralErrors = [] ∧ product ∈ namesake.entities ∧ namesake.entity? product.id ≠ some product ∧
      (∃ owner ∈ namesake.entities, ∃ relationship ∈ owner.relationships, relationship.targetEntity = product.id ∧
        (RelationView.of namesake .typescript relationship).targetClass ≠
          (EntityView.of namesake .typescript product).className) ∧
      (∃ flow ∈ namesake.flows, ∃ step ∈ flow.steps, step.entity = some product.id ∧
        (StepView.of namesake .typescript flow step).entityClass ≠
          (EntityView.of namesake .typescript product).className) ∧
      ∃ rule ∈ namesake.compliance.rules, rule.location = product.id ∧
        (RuleView.of .typescript rule).location ≠ (EntityView.of namesake .typescript product).className := by
  refine ⟨by decide, List.mem_cons_of_mem _ (List.mem_cons_self ..), ?_, ?_, ?_, ?_⟩
  · exact fun same => absurd (congrArg (Option.map Entity.id) same) (by decide)
  · exact ⟨_, List.mem_cons_self .., _, List.mem_cons_self .., rfl, by decide⟩
  · exact ⟨_, List.mem_cons_self .., _, List.mem_cons_self .., rfl, by decide⟩
  · exact ⟨_, List.mem_cons_self .., rfl, by decide⟩

end Prism.Specification
